import Wiretap.Proofs.Disk
import Wiretap.Watch.Watcher
/-! # What a watcher serves

A watcher serves the settings that are current and those that it has published. Whatever happens to
the file, and in whatever order updates take their steps, these are valid, with one exception: a load
that finds nothing at the path gives the standard settings, which are not.
-/

namespace Wiretap

/-! ## Loading -/

namespace Settings

theorem parse_eq_ok {text : String} {s : Settings} (h : parse text = .ok s) :
    s.validate = .ok () := by
  simp only [parse, bind, Except.bind, pure, Except.pure] at h
  split at h
  · cases h
  · rename_i read _
    cases valid : read.validate with
    | error fault => simp [during, valid, Except.mapError] at h
    | ok =>
        simp only [during, valid, Except.mapError, Except.ok.injEq] at h
        rw [← h, valid]

/-- What is loaded from a file is valid. -/
theorem validate_of_load {disk : Disk} {path : String} {s : Settings}
    (there : disk.exists? path = true) (h : load disk path = .ok s) : s.validate = .ok () := by
  simp only [load, if_pos there, bind, Except.bind] at h
  split at h
  · cases h
  · rename_i text _
    cases read : parse text with
    | error fault => simp [during, read, Except.mapError] at h
    | ok found =>
        simp only [during, read, Except.mapError, Except.ok.injEq] at h
        rw [← h, parse_eq_ok read]

theorem load_of_missing {disk : Disk} {path : String} (h : disk.exists? path = false) :
    load disk path = .ok standard := by
  simp [load, h]

/-- The standard relay forwards to itself. -/
theorem relaysFault?_standard :
    standard.relaysFault? = some (.selfLoop 3001 standardRelay.target) := by
  decide +kernel

theorem validate_standard : standard.validate =
    .error ⟨[.validatingRelays], .rule (.selfLoop 3001 standardRelay.target)⟩ := by
  rw [validate, relaysFault?_standard]

end Settings

/-! ## Updates -/

/-- The settings that an update is about to store or to send. -/
def Update.settings? : Update → Option Settings
  | .storing settings | .sending settings => some settings
  | .loading _ | .finished _ => none

/-- Whether the next step of an update loads the file. -/
def Update.isLoading : Update → Bool
  | .loading _ => true
  | _ => false

namespace Watcher

/-- Settings that a watcher serves: the current ones, and those of every change that it published. -/
def Serves (w : Watcher) (s : Settings) : Prop :=
  s = w.current ∨ ∃ change ∈ w.channel.sent, change.settings = s

/-- All that a watcher serves is of some kind. -/
def ServesOnly (P : Settings → Prop) (w : Watcher) : Prop := ∀ s, w.Serves s → P s

variable {P : Settings → Prop} {w : Watcher}

theorem ServesOnly.congr {v : Watcher} (h : w.ServesOnly P) (current : v.current = w.current)
    (channel : v.channel = w.channel) : v.ServesOnly P := by
  intro s served
  apply h s
  rwa [Serves, ← current, ← channel]

theorem ServesOnly.store {settings : Settings} (h : w.ServesOnly P) (new : P settings) :
    ServesOnly P { w with current := settings } := by
  rintro s (rfl | sent)
  · exact new
  · exact h s (.inr sent)

theorem ServesOnly.send {change : Change} (h : w.ServesOnly P) (new : P change.settings) :
    ServesOnly P { w with channel := w.channel.send change } := by
  rintro s (rfl | ⟨published, member, rfl⟩)
  · exact h _ (.inl rfl)
  · rcases List.mem_append.mp member with before | last
    · exact h _ (.inr ⟨published, before, rfl⟩)
    · rwa [List.mem_singleton.mp last]

/-- An update that loads the file has only read it. -/
theorem advance_loading (cause : UpdateCause) :
    (w.advance (.loading cause)).1.current = w.current ∧
      (w.advance (.loading cause)).1.channel = w.channel ∧
      ∀ s, (w.advance (.loading cause)).2.settings? = some s →
        Settings.load w.disk w.path = .ok s := by
  simp only [advance]
  cases loaded : Settings.load w.disk w.path with
  | error fault => exact ⟨rfl, rfl, fun s pending => by simp [Update.settings?] at pending⟩
  | ok settings =>
      cases cause with
      | request => exact ⟨rfl, rfl, fun s pending => congrArg Except.ok (Option.some.inj pending)⟩
      | fileChange =>
          dsimp only
          split
          · exact ⟨rfl, rfl, fun s pending => by simp [Update.settings?] at pending⟩
          · exact ⟨rfl, rfl, fun s pending => congrArg Except.ok (Option.some.inj pending)⟩

theorem isLoading_advance (u : Update) : (w.advance u).2.isLoading = false := by
  cases u with
  | loading cause =>
      simp only [advance]
      cases Settings.load w.disk w.path with
      | error fault => rfl
      | ok settings =>
          cases cause with
          | request => rfl
          | fileChange =>
              dsimp only
              split <;> rfl
  | storing | sending | finished => rfl

/-- A step of an update keeps to settings of some kind if all that it loads is of that kind. -/
theorem ServesOnly.advance {u : Update} (h : w.ServesOnly P) (pending : ∀ s ∈ u.settings?, P s)
    (loads : u.isLoading = true → ∀ s, Settings.load w.disk w.path = .ok s → P s) :
    (w.advance u).1.ServesOnly P ∧ ∀ s ∈ (w.advance u).2.settings?, P s := by
  cases u with
  | loading cause =>
      obtain ⟨current, channel, new⟩ := w.advance_loading cause
      exact ⟨h.congr current channel, fun s found => loads rfl s (new s found)⟩
  | storing settings =>
      have new : P settings := pending settings rfl
      refine ⟨h.store new, fun s found => ?_⟩
      rwa [← Option.some.inj found]
  | sending settings => exact ⟨h.send (pending settings rfl), fun s found => by cases found⟩
  | finished result => exact ⟨h, fun s found => by cases found⟩

theorem ServesOnly.update (cause : UpdateCause) (h : w.ServesOnly P)
    (loads : ∀ s, Settings.load w.disk w.path = .ok s → P s) : (w.update cause).1.ServesOnly P := by
  have first := h.advance (u := .loading cause) (fun s found => by cases found) fun _ => loads
  have second := first.1.advance first.2 fun again => by simp [isLoading_advance] at again
  have third := second.1.advance second.2 fun again => by simp [isLoading_advance] at again
  simp only [Watcher.update]
  split <;> exact third.1

/-- An update that cannot load the file changes nothing that is served. -/
theorem update_of_fault (cause : UpdateCause) {fault : Failure}
    (h : Settings.load w.disk w.path = .error fault) :
    (w.update cause).1.current = w.current ∧ (w.update cause).1.channel = w.channel ∧
      (w.update cause).2 = .failed fault := by
  simp [update, advance, h, log]

/-- A watcher that begins has loaded its file and has sent nothing. -/
theorem start_eq_ok {disk : Disk} {path : String} (started : start disk path = .ok w) :
    Settings.load disk path = .ok w.current ∧ w.channel = .blank channelCapacity ∧
      w.disk = disk ∧ w.path = path := by
  simp only [start, bind, Except.bind, pure, Except.pure] at started
  split at started
  · cases started
  rename_i settings loaded
  split at started
  · cases started
  rename_i begun watching
  cases started
  simp only [watch] at watching
  split at watching
  · cases watching
  split at watching
  · cases watching
    exact ⟨loaded, rfl, rfl, rfl⟩
  · cases watching

end Watcher

/-! ## Watching -/

/-- A watcher with the updates that are under way. -/
structure Vigil where
  watcher : Watcher
  updates : List Update

namespace Vigil

/-- What happens next to a watcher. -/
inductive Happening where
  /-- Something on the disk is written, replaced, renamed or removed. -/
  | disk (change : Disk → Disk)
  /-- The folder reports on the files at some paths, and the report is handled at once. -/
  | report (paths : List String) (kind : Watcher.FileEventKind)
  /-- Somebody asks for an update, which is made at once. -/
  | reload
  /-- An update begins that takes its steps among those of others. -/
  | begins (cause : UpdateCause)
  /-- One of these takes a step. -/
  | advances (index : Nat)
  | subscribes
  | unsubscribes

def start (w : Watcher) : Vigil := ⟨w, []⟩

/-- What becomes of a watch by what happens. -/
def move (v : Vigil) : Happening → Vigil
  | .disk change => { v with watcher := { v.watcher with disk := change v.watcher.disk } }
  | .report paths kind => { v with watcher := v.watcher.handle paths kind }
  | .reload => { v with watcher := v.watcher.reload.1 }
  | .begins cause => { v with updates := v.updates ++ [.loading cause] }
  | .advances index =>
    match v.updates[index]? with
    | some u => ⟨(v.watcher.advance u).1, v.updates.set index (v.watcher.advance u).2⟩
    | none => v
  | .subscribes => { v with watcher := v.watcher.subscribe.1 }
  | .unsubscribes => { v with watcher := v.watcher.unsubscribe }

/-- What becomes of a watch by all that happens. -/
def run (v : Vigil) (happenings : List Happening) : Vigil := happenings.foldl move v

/-- Whether the file is loaded in what happens. -/
def loads (v : Vigil) : Happening → Bool
  | .report paths kind => v.watcher.isAbout paths && kind = .changed
  | .reload => true
  | .advances index => v.updates[index]?.any Update.isLoading
  | _ => false

/-- There is something at the path whenever it is loaded. -/
def FindsFile : Vigil → List Happening → Prop
  | _, [] => True
  | v, h :: rest =>
    (v.loads h = true → v.watcher.disk.exists? v.watcher.path = true) ∧ FindsFile (v.move h) rest

/-- All that is served, now or by an update that is under way, is of some kind. -/
structure KeepsTo (P : Settings → Prop) (v : Vigil) : Prop where
  serves : v.watcher.ServesOnly P
  pending : ∀ u ∈ v.updates, ∀ s ∈ u.settings?, P s

variable {P : Settings → Prop} {v : Vigil}

theorem KeepsTo.move (h : v.KeepsTo P) (happening : Happening)
    (loads : v.loads happening = true →
      ∀ s, Settings.load v.watcher.disk v.watcher.path = .ok s → P s) :
    (v.move happening).KeepsTo P := by
  cases happening with
  | disk change => exact ⟨h.serves.congr rfl rfl, h.pending⟩
  | report paths kind =>
      refine ⟨?_, h.pending⟩
      simp only [Vigil.move, Watcher.handle]
      split
      · rename_i about
        cases kind with
        | changed => exact h.serves.update .fileChange (loads (by simp [Vigil.loads, about]))
        | removed => exact h.serves.congr rfl rfl
        | other => exact h.serves
      · exact h.serves
  | reload =>
      refine ⟨?_, h.pending⟩
      have asked : (v.watcher.log [Entry.info .watcher
          s!"Force reloading configuration from: {v.watcher.path}"]).ServesOnly P :=
        h.serves.congr rfl rfl
      have updated := asked.update .request (loads rfl)
      simp only [Vigil.move, Watcher.reload]
      split <;> simp_all
  | begins cause =>
      refine ⟨h.serves, fun u member s found => ?_⟩
      rcases List.mem_append.mp member with before | new
      · exact h.pending u before s found
      · rw [List.mem_singleton.mp new] at found
        cases found
  | advances index =>
      simp only [Vigil.move]
      cases here : v.updates[index]? with
      | none => exact h
      | some u =>
          have next := h.serves.advance (h.pending u (List.mem_of_getElem? here))
            fun loading => loads (by simp [Vigil.loads, here, loading])
          refine ⟨next.1, fun other member s found => ?_⟩
          rcases List.mem_or_eq_of_mem_set member with before | rfl
          · exact h.pending other before s found
          · exact next.2 s found
  | subscribes => exact ⟨h.serves.congr rfl rfl, h.pending⟩
  | unsubscribes => exact ⟨h.serves.congr rfl rfl, h.pending⟩

theorem KeepsTo.run (h : v.KeepsTo P) (loads : ∀ disk path s, Settings.load disk path = .ok s → P s)
    (happenings : List Happening) : (v.run happenings).KeepsTo P := by
  induction happenings generalizing v with
  | nil => exact h
  | cons happening rest ih => exact ih (h.move happening fun _ => loads _ _)

theorem KeepsTo.run_of_findsFile (h : v.KeepsTo fun s => s.validate = .ok ())
    (happenings : List Happening) (finds : v.FindsFile happenings) :
    (v.run happenings).KeepsTo fun s => s.validate = .ok () := by
  induction happenings generalizing v with
  | nil => exact h
  | cons happening rest ih =>
      exact ih (h.move happening fun loading _ => Settings.validate_of_load (finds.1 loading)) finds.2

/-- A load that fails leaves what is served as it is. -/
theorem move_of_fault {happening : Happening} {fault : Failure} (loading : v.loads happening = true)
    (fails : Settings.load v.watcher.disk v.watcher.path = .error fault) :
    (v.move happening).watcher.current = v.watcher.current ∧
      (v.move happening).watcher.channel = v.watcher.channel := by
  cases happening with
  | report paths kind =>
      simp only [loads, Bool.and_eq_true, decide_eq_true_eq] at loading
      obtain ⟨about, rfl⟩ := loading
      simp only [move, Watcher.handle, if_pos about]
      obtain ⟨current, channel, _⟩ := Watcher.update_of_fault .fileChange fails
      exact ⟨current, channel⟩
  | reload =>
      obtain ⟨current, channel, failed⟩ := Watcher.update_of_fault .request
        (w := v.watcher.log [Entry.info .watcher
          s!"Force reloading configuration from: {v.watcher.path}"]) fails
      simp only [move, Watcher.reload]
      split <;> simp_all [Watcher.log]
  | advances index =>
      simp only [loads, Option.any_eq_true] at loading
      obtain ⟨u, here, isLoading⟩ := loading
      cases u with
      | loading cause =>
          obtain ⟨current, channel, _⟩ := v.watcher.advance_loading cause
          simp only [move, here]
          exact ⟨current, channel⟩
      | storing | sending | finished => simp [Update.isLoading] at isLoading
  | disk | begins | subscribes | unsubscribes => simp [loads] at loading

theorem keepsTo_start {disk : Disk} {path : String} {w : Watcher}
    (started : Watcher.start disk path = .ok w) (loads : ∀ s, Settings.load disk path = .ok s → P s) :
    (start w).KeepsTo P := by
  obtain ⟨loaded, blank, _⟩ := Watcher.start_eq_ok started
  refine ⟨?_, by simp [start]⟩
  rintro s (rfl | ⟨change, sent, _⟩)
  · exact loads _ loaded
  · simp [start, blank, Broadcast.blank] at sent

/-- What a watcher serves that was started on a settings file, whatever happens. All of it is valid
but for the standard settings, and these are never served while every load finds something at the
path. A load that fails, because the file cannot be read or is not valid, changes nothing. -/
theorem served_valid {disk : Disk} {path : String} {w : Watcher}
    (started : Watcher.start disk path = .ok w) (there : disk.exists? path = true)
    (happenings : List Happening) :
    let v := (start w).run happenings
    (∀ s, v.watcher.Serves s → s.validate = .ok () ∨ s = .standard) ∧
    ((start w).FindsFile happenings → ∀ s, v.watcher.Serves s → s.validate = .ok ()) ∧
    (∀ happening fault, v.loads happening = true →
      Settings.load v.watcher.disk v.watcher.path = .error fault →
      (v.move happening).watcher.current = v.watcher.current ∧
        (v.move happening).watcher.channel = v.watcher.channel) := by
  intro v
  have valid : (start w).KeepsTo fun s => s.validate = .ok () :=
    keepsTo_start started fun s loaded => Settings.validate_of_load there loaded
  have loads (disk : Disk) (path : String) (s : Settings) (loaded : Settings.load disk path = .ok s) :
      s.validate = .ok () ∨ s = .standard := by
    cases found : disk.exists? path with
    | true => exact .inl (Settings.validate_of_load found loaded)
    | false =>
        rw [Settings.load_of_missing found] at loaded
        exact .inr (Except.ok.inj loaded).symm
  have either : (start w).KeepsTo fun s => s.validate = .ok () ∨ s = .standard :=
    ⟨fun s served => .inl (valid.serves s served),
      fun u member s found => .inl (valid.pending u member s found)⟩
  exact ⟨(either.run loads happenings).serves,
    fun finds => (valid.run_of_findsFile happenings finds).serves,
    fun happening fault loading fails => move_of_fault loading fails⟩

/-! ## A file that is gone -/

/-- A disk with a settings file in the working folder. -/
def plainDisk : Disk :=
  Disk.blank.put ["r"] (.file (Bytes.ofText "[[relays]]\nport = 1\nupstream_port = 2\n"))

theorem start_plain : ∃ w, Watcher.start plainDisk "r" = .ok w ∧ plainDisk.exists? "r" = true ∧
    w.path = "r" ∧ w.current.validate = .ok () := by
  let text := "[[relays]]\nport = 1\nupstream_port = 2\n"
  let settings : Settings :=
    ⟨"info", [⟨1, .anyV4, "127.0.0.1", some 2, 4096, .zero⟩], .log 64, .standard⟩
  have parses : (Settings.parse text).toOption = some settings := by decide +kernel
  have there : plainDisk.at? ["r"] = some (.file (Bytes.ofText text)) := by decide +kernel
  have isText : (Bytes.ofText text).toText? = some text := by decide +kernel
  have read := Route.isName_r.read there
  have loaded : Settings.load plainDisk "r" = .ok settings := by
    cases parsed : Settings.parse text with
    | error fault => simp [parsed, Except.toOption] at parses
    | ok found =>
        simp only [parsed, Except.toOption, Option.some.injEq] at parses
        simp [Settings.load, Route.isName_r.exists? there, Settings.textOf, read, isText, parsed, parses,
          during, bind, Except.bind, Except.mapError]
  have folder := Route.isName_r.parentPath?
  have empty : ("" : String).isEmpty = true := rfl
  refine ⟨_, by simp [Watcher.start, Watcher.watch, loaded, folder, empty, bind, Except.bind, pure,
    Except.pure]; rfl, Route.isName_r.exists? there, rfl,
    Settings.validate_of_load (Route.isName_r.exists? there) loaded⟩

/-- When somebody asks for an update and there is nothing at the path, the standard settings become
the current ones. -/
theorem current_reload_of_missing {w : Watcher} (gone : w.disk.exists? w.path = false) :
    w.reload.1.current = .standard := by
  have loaded := Settings.load_of_missing gone
  simp [Watcher.reload, Watcher.update, Watcher.advance, Watcher.log, loaded]

/-- The file is removed, and somebody asks for an update: the watcher serves settings that are not
valid in the place of the last good ones. -/
theorem served_invalid_of_removed :
    ∃ w, Watcher.start plainDisk "r" = .ok w ∧ plainDisk.exists? "r" = true ∧
      w.current.validate = .ok () ∧
      ¬∀ s, ((start w).run [.disk (·.removeAt "r"), .reload]).watcher.Serves s →
        s.validate = .ok () := by
  obtain ⟨w, started, there, atPath, valid⟩ := start_plain
  refine ⟨w, started, there, valid, fun all => ?_⟩
  have served := current_reload_of_missing (w := { w with disk := w.disk.removeAt "r" })
    (by rw [atPath]; exact Route.isName_r.exists?_removeAt _)
  have invalid := all .standard (.inl served.symm)
  rw [Settings.validate_standard] at invalid
  cases invalid

/-- An update is asked for, and before it loads the file, that is overwritten with nothing. -/
theorem served_valid_overwritten :
    let happenings : List Happening :=
      [.begins .request, .disk fun _ => plainDisk.put ["r"] (.file []), .advances 0]
    ∃ w, Watcher.start plainDisk "r" = .ok w ∧ plainDisk.exists? "r" = true ∧
      (start w).FindsFile happenings ∧
      ∀ s, ((start w).run happenings).watcher.Serves s → s.validate = .ok () := by
  intro happenings
  obtain ⟨w, started, there, atPath, _⟩ := start_plain
  have finds : (start w).FindsFile happenings := by
    have empty : (plainDisk.put ["r"] (.file [])).at? ["r"] = some (.file []) := by decide +kernel
    have found := Route.isName_r.exists? empty
    simp only [happenings, FindsFile, loads, Bool.false_eq_true, false_implies, true_and, and_true]
    intro _
    simp only [move, start, atPath, found]
  exact ⟨w, started, there, finds, (served_valid started there happenings).2.1 finds⟩

end Vigil

end Wiretap
