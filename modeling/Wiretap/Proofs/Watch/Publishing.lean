import Wiretap.Proofs.CommandLine.Loading
/-! # What a watcher publishes

Updates that are made one after another. The content of the file either gives settings, or is
refused for one of four reasons. A refused content changes nothing. One that gives settings is
published as a whole: the settings become the current ones and are sent once. So the current settings
are always those that were sent last, and a report has settings sent only when they are others.

A load can also break down whoever makes it: an overlong pause in the file does.
-/

namespace Wiretap

/-! ## What a content gives -/

theorem Disk.exists?_of_read {disk : Disk} {path : String} {content : Bytes}
    (read : disk.read path = .ok content) : disk.exists? path = true := by
  simp only [Disk.read, bind, Except.bind] at read
  cases found : disk.find path with
  | error fault =>
      rw [found] at read
      cases read
  | ok place => simp [exists?, found, Except.isOk, Except.toBool]

namespace Settings

/-- The content of a file gives settings. -/
structure GivenBy (content : Bytes) (s : Settings) : Prop where
  laid : ∃ text, content.toText? = some text ∧ ofText text = .ok s
  valid : s.validate = .ok ()

/-- Why the content of the file at a path gives none. -/
inductive Refused (path : String) (content : Bytes) : Failure → Prop where
  | notText (garbled : content.toText? = none) :
      Refused path content ⟨[.readingFile path], .io .notUtf8⟩
  | notToml {text : String} (isText : content.toText? = some text)
      (garbled : Toml.read? text = none) : Refused path content ⟨[.parsingFile path], .malformedDocument⟩
  | notSettings {text : String} {document : Toml.Document} {fault : ShapeFault}
      (isText : content.toText? = some text) (isToml : Toml.read? text = some document)
      (misshapen : ofDocument document = .error fault) :
      Refused path content ⟨[.parsingFile path], .shape fault⟩
  | invalid {text : String} {s : Settings} {fault : Failure} (isText : content.toText? = some text)
      (laid : ofText text = .ok s) (breaks : s.validate = .error fault) :
      Refused path content ((fault.within .validating).within (.parsingFile path))

variable {disk : Disk} {path : String} {content : Bytes}

theorem textOf_eq_ok {text : String} (read : disk.read path = .ok content)
    (isText : content.toText? = some text) : textOf disk path = .ok text := by
  simp only [textOf, read, isText]

theorem load_of_given {s : Settings} (read : disk.read path = .ok content)
    (given : GivenBy content s) : load disk path = .ok s := by
  obtain ⟨text, isText, laid⟩ := given.laid
  exact load_of_valid (Disk.exists?_of_read read) (textOf_eq_ok read isText) laid given.valid

theorem load_of_refused {fault : Failure} (read : disk.read path = .ok content)
    (refused : Refused path content fault) :
    load disk path = .error fault := by
  have there := Disk.exists?_of_read read
  cases refused with
  | notText garbled =>
      have unread : textOf disk path = .error (.of (.io .notUtf8)) := by
        simp only [textOf, read, garbled]
      simp only [load, if_pos there, unread]
      rfl
  | notToml isText garbled =>
      rw [load_eq_parse there (textOf_eq_ok read isText)]
      simp only [parse, ofText, garbled, bind, Except.bind]
      rfl
  | notSettings isText isToml misshapen =>
      rw [load_eq_parse there (textOf_eq_ok read isText)]
      simp only [parse, ofText, isToml, misshapen, Except.mapError, bind, Except.bind]
      rfl
  | invalid isText laid breaks => exact load_of_invalid there (textOf_eq_ok read isText) laid breaks

theorem given_or_refused (path : String) (content : Bytes) :
    (∃ s, GivenBy content s) ∨ ∃ fault, Refused path content fault := by
  cases isText : content.toText? with
  | none => exact .inr ⟨_, .notText isText⟩
  | some text =>
      cases isToml : Toml.read? text with
      | none => exact .inr ⟨_, .notToml isText isToml⟩
      | some document =>
          cases shaped : ofDocument document with
          | error fault => exact .inr ⟨_, .notSettings isText isToml shaped⟩
          | ok s =>
              have laid : ofText text = .ok s := by
                simp only [ofText, isToml, shaped, Except.mapError]
              cases valid : s.validate with
              | error fault => exact .inr ⟨_, .invalid isText laid valid⟩
              | ok => exact .inl ⟨s, ⟨text, isText, laid⟩, valid⟩

end Settings

/-! ## One update -/

namespace Watcher

/-- What is served stays the same. -/
structure Keeps (w v : Watcher) : Prop where
  path : v.path = w.path
  current : v.current = w.current
  channel : v.channel = w.channel

/-- Settings have become the current ones and were sent once. -/
structure Publishes (w : Watcher) (s : Settings) (v : Watcher) : Prop where
  path : v.path = w.path
  current : v.current = s
  channel : v.channel = w.channel.send ⟨s, w.path⟩

/-- How an update goes that nobody interrupts. -/
inductive Updates (w : Watcher) (cause : UpdateCause) : Watcher × UpdateResult → Prop where
  | fails {fault : Failure} {v : Watcher} (loaded : Settings.load w.disk w.path = .error fault)
      (keeps : w.Keeps v) : Updates w cause (v, .failed fault)
  | same {s : Settings} {v : Watcher} (loaded : Settings.load w.disk w.path = .ok s)
      (same : w.current.sameAs s) (reported : cause = .fileChange) (keeps : w.Keeps v) :
      Updates w cause (v, .unchanged)
  | publishes {s : Settings} {v : Watcher} (loaded : Settings.load w.disk w.path = .ok s)
      (others : cause = .fileChange → ¬w.current.sameAs s) (publishes : w.Publishes s v) :
      Updates w cause (v, .published)

variable {w v : Watcher}

theorem update_updates (w : Watcher) (cause : UpdateCause) : w.Updates cause (w.update cause) := by
  obtain ⟨r, loaded⟩ : ∃ r, Settings.load w.disk w.path = r := ⟨_, rfl⟩
  simp only [update, advance, loaded]
  cases r with
  | error fault => exact .fails loaded ⟨rfl, rfl, rfl⟩
  | ok s =>
      cases cause with
      | request => exact .publishes loaded (fun reported => by cases reported) ⟨rfl, rfl, rfl⟩
      | fileChange =>
          by_cases same : w.current.sameAs s
          · simp only [if_pos same]
            exact .same loaded same rfl ⟨rfl, rfl, rfl⟩
          · simp only [if_neg same]
            exact .publishes loaded (fun _ => same) ⟨rfl, rfl, rfl⟩

theorem Keeps.not_send (h : w.Keeps v) (change : Change) : v.channel ≠ w.channel.send change := by
  intro sent
  rw [h.channel] at sent
  have longer := congrArg (·.sent.length) sent
  simp [Broadcast.send] at longer

variable {s : Settings} {fault : Failure}

theorem reload_of_fault (fails : Settings.load w.disk w.path = .error fault) :
    w.Keeps w.reload.1 ∧ w.reload.2 = .error fault := by
  let asked := w.log [Entry.info .watcher s!"Force reloading configuration from: {w.path}"]
  have updates := asked.update_updates .request
  simp only [reload]
  change Updates asked .request (asked.update .request) at updates
  generalize asked.update .request = r at updates
  cases updates with
  | fails again keeps =>
      cases fails.symm.trans again
      exact ⟨⟨keeps.path, keeps.current, keeps.channel⟩, rfl⟩
  | same loaded => cases fails.symm.trans loaded
  | publishes loaded => cases fails.symm.trans loaded

theorem reload_of_loaded (loaded : Settings.load w.disk w.path = .ok s) :
    w.Publishes s w.reload.1 ∧ w.reload.2 = .ok () := by
  let asked := w.log [Entry.info .watcher s!"Force reloading configuration from: {w.path}"]
  have updates := asked.update_updates .request
  simp only [reload]
  change Updates asked .request (asked.update .request) at updates
  generalize asked.update .request = r at updates
  cases updates with
  | fails fails => cases loaded.symm.trans fails
  | same _ _ reported => cases reported
  | publishes again _ publishes =>
      cases loaded.symm.trans again
      exact ⟨⟨publishes.path, publishes.current, publishes.channel⟩, rfl⟩

/-- A report on another file, or of anything but a change, is not acted upon. -/
theorem keeps_handle {paths : List String} {kind : FileEventKind}
    (silent : w.isAbout paths = false ∨ kind ≠ .changed) : w.Keeps (w.handle paths kind) := by
  simp only [handle]
  split
  · rename_i about
    cases kind with
    | changed => simp [about] at silent
    | removed | other => exact ⟨rfl, rfl, rfl⟩
  · exact ⟨rfl, rfl, rfl⟩

theorem handle_of_fault {paths : List String} {kind : FileEventKind}
    (fails : Settings.load w.disk w.path = .error fault) : w.Keeps (w.handle paths kind) := by
  by_cases silent : w.isAbout paths = false ∨ kind ≠ .changed
  · exact keeps_handle silent
  · simp only [not_or, Bool.not_eq_false, not_not] at silent
    obtain ⟨about, rfl⟩ := silent
    have updates := w.update_updates .fileChange
    simp only [handle, if_pos about]
    generalize w.update .fileChange = r at updates
    cases updates with
    | fails _ keeps => exact keeps
    | same loaded => cases fails.symm.trans loaded
    | publishes loaded => cases fails.symm.trans loaded

theorem handle_of_loaded (loaded : Settings.load w.disk w.path = .ok s) (paths : List String)
    (kind : FileEventKind) :
    if kind = .changed ∧ w.isAbout paths ∧ ¬w.current.sameAs s then
      w.Publishes s (w.handle paths kind)
    else w.Keeps (w.handle paths kind) := by
  by_cases silent : w.isAbout paths = false ∨ kind ≠ .changed
  · rw [if_neg (by grind)]
    exact keeps_handle silent
  · simp only [not_or, Bool.not_eq_false, not_not] at silent
    obtain ⟨about, rfl⟩ := silent
    have updates := w.update_updates .fileChange
    simp only [handle, about, true_and]
    generalize w.update .fileChange = r at updates
    cases updates with
    | fails fails => cases loaded.symm.trans fails
    | same again same _ keeps =>
        cases loaded.symm.trans again
        rw [if_neg (not_not.mpr same)]
        exact keeps
    | publishes again others publishes =>
        cases loaded.symm.trans again
        rw [if_pos (others rfl)]
        exact publishes

/-- The settings that were sent last are the current ones. -/
def IsUpToDate (w : Watcher) : Prop := ∀ last ∈ w.channel.sent.getLast?, last.settings = w.current

theorem IsUpToDate.keeps (h : w.IsUpToDate) (keeps : w.Keeps v) : v.IsUpToDate := by
  rw [IsUpToDate, keeps.current, keeps.channel]
  exact h

theorem Publishes.isUpToDate {s : Settings} (h : w.Publishes s v) : v.IsUpToDate := by
  rw [IsUpToDate, h.current, h.channel]
  simp [Broadcast.send]

end Watcher

/-! ## One update after another -/

namespace Vigil

/-- Whether all of what happens is done before anything else happens. -/
def Happening.isWhole : Happening → Bool
  | .begins _ | .advances _ => false
  | .disk _ | .report .. | .reload | .subscribes | .unsubscribes => true

/-- No load breaks the program down. -/
def HoldsUp : Vigil → List Happening → Prop
  | _, [] => True
  | v, h :: rest =>
    (v.loads h = true → ∀ fault, Settings.load v.watcher.disk v.watcher.path = .error fault →
      fault.breakdown? = none) ∧ HoldsUp (v.move h) rest

variable {v : Vigil} {h : Happening}

theorem holdsUp_append (before more : List Happening) :
    v.HoldsUp (before ++ more) ↔ v.HoldsUp before ∧ (v.run before).HoldsUp more := by
  induction before generalizing v with
  | nil => simp [HoldsUp, run]
  | cons h before ih => simp only [List.cons_append, HoldsUp, ih, and_assoc]; rfl

/-- Nothing is served in parts, and reports have only other settings sent. -/
theorem move_isWhole (whole : h.isWhole = true) :
    v.watcher.Keeps (v.move h).watcher ∨
      ∃ s, v.watcher.Publishes s (v.move h).watcher ∧
        ∀ paths kind, h = .report paths kind → ¬v.watcher.current.sameAs s := by
  cases h with
  | begins | advances => cases whole
  | disk | subscribes | unsubscribes => exact .inl ⟨rfl, rfl, rfl⟩
  | reload =>
      cases loaded : Settings.load v.watcher.disk v.watcher.path with
      | error fault => exact .inl (Watcher.reload_of_fault loaded).1
      | ok s => exact .inr ⟨s, (Watcher.reload_of_loaded loaded).1, nofun⟩
  | report paths kind =>
      cases loaded : Settings.load v.watcher.disk v.watcher.path with
      | error fault => exact .inl (Watcher.handle_of_fault loaded)
      | ok s =>
          have handled := Watcher.handle_of_loaded loaded paths kind
          split at handled
          · rename_i acted
            exact .inr ⟨s, handled, fun _ _ _ => acted.2.2⟩
          · exact .inl handled

theorem isUpToDate_run (fresh : v.watcher.IsUpToDate) (happenings : List Happening)
    (whole : ∀ h ∈ happenings, h.isWhole = true) : (v.run happenings).watcher.IsUpToDate := by
  induction happenings generalizing v with
  | nil => exact fresh
  | cons h rest ih =>
      refine ih ?_ fun h member => whole h (List.mem_cons_of_mem _ member)
      rcases move_isWhole (v := v) (whole h List.mem_cons_self) with keeps | ⟨s, publishes, _⟩
      · exact fresh.keeps keeps
      · exact publishes.isUpToDate

theorem isUpToDate_start {disk : Disk} {path : String} {w : Watcher}
    (started : Watcher.start disk path = .ok w) : w.IsUpToDate := by
  obtain ⟨_, blank, _⟩ := Watcher.start_eq_ok started
  simp [Watcher.IsUpToDate, blank, Broadcast.blank]

/-- What becomes of a watcher's settings when updates are made one after another. A content that is
refused changes nothing, and whoever asked for it is told why. A content that gives settings makes
them current and has them sent once: on request always, and when a change is reported of a file of that
name if they are others. Other reports do nothing. What was sent last is current, and no report has the
same settings sent again. -/
theorem publishes_all_or_nothing {disk : Disk} {path : String} {w : Watcher}
    (started : Watcher.start disk path = .ok w) (before : List Happening) (h : Happening)
    (whole : ∀ x ∈ before ++ [h], x.isWhole = true) (holdsUp : (start w).HoldsUp (before ++ [h])) :
    let v := ((start w).run before).watcher
    let next := (((start w).run before).move h).watcher
    (∀ content, v.disk.read v.path = .ok content →
      (∀ fault, Settings.Refused v.path content fault →
        v.Keeps next ∧ (h = .reload → v.reload.2 = .error fault ∧ fault.breakdown? = none)) ∧
      ∀ s, Settings.GivenBy content s →
        (h = .reload → v.reload.2 = .ok () ∧ v.Publishes s next) ∧
        ∀ reports kind, h = .report reports kind →
          if kind = .changed ∧ (∃ report ∈ reports, fileName? report = fileName? v.path) ∧
              ¬v.current.sameAs s then
            v.Publishes s next
          else v.Keeps next) ∧
    (∀ reports kind, h = .report reports kind →
      kind ≠ .changed ∨ (∀ report ∈ reports, fileName? report ≠ fileName? v.path) →
      v.Keeps next) ∧
    (next.channel ≠ v.channel →
      ∃ change, next.channel = v.channel.send change ∧ next.current = change.settings) ∧
    (∀ reports kind change, h = .report reports kind → next.channel = v.channel.send change →
      ∀ last ∈ v.channel.sent.getLast?, ¬last.settings.sameAs change.settings) := by
  intro v next
  have now : h.isWhole = true := whole h (List.mem_append_right _ List.mem_cons_self)
  have steps := move_isWhole (v := (start w).run before) now
  refine ⟨fun content read => ⟨fun fault refused => ?_, fun s given => ⟨?_, ?_⟩⟩, ?_, ?_, ?_⟩
  · have fails := Settings.load_of_refused read refused
    refine ⟨?_, ?_⟩
    · cases h with
      | begins | advances => cases now
      | disk | subscribes | unsubscribes => exact ⟨rfl, rfl, rfl⟩
      | reload => exact (Watcher.reload_of_fault fails).1
      | report reports kind => exact Watcher.handle_of_fault fails
    · rintro rfl
      exact ⟨(Watcher.reload_of_fault fails).2,
        ((holdsUp_append before _).mp holdsUp).2.1 rfl fault fails⟩
  · rintro rfl
    exact (Watcher.reload_of_loaded (Settings.load_of_given read given)).symm
  · rintro reports kind rfl
    have handled := Watcher.handle_of_loaded (Settings.load_of_given read given) reports kind
    change if _ then v.Publishes s next else v.Keeps next at handled
    simpa only [Watcher.isAbout, List.any_eq_true, decide_eq_true_eq] using handled
  · rintro reports kind rfl silent
    refine Watcher.keeps_handle (silent.symm.imp_left fun others => ?_)
    simpa [Watcher.isAbout] using others
  · intro sent
    rcases steps with keeps | ⟨s, publishes, _⟩
    · exact absurd keeps.channel sent
    · exact ⟨⟨s, v.path⟩, publishes.channel, publishes.current⟩
  · rintro reports kind change rfl sent last isLast
    rcases steps with keeps | ⟨s, publishes, others⟩
    · exact absurd sent (keeps.not_send change)
    · have upToDate : v.IsUpToDate := isUpToDate_run (isUpToDate_start started) before
        fun h member => whole h (List.mem_append_left _ member)
      have same : (⟨s, v.path⟩ : Change) = change := by
        have both := congrArg (·.sent) (publishes.channel.symm.trans sent)
        simpa [Broadcast.send, v] using both
      rw [upToDate last isLast, ← same]
      exact others _ _ rfl

/-- The file turns into something that is no text between two requests. -/
theorem publishes_all_or_nothing_garbled :
    let garble : Disk → Disk := fun _ => plainDisk.put ["r"] (.file [0xff])
    ∃ w, Watcher.start plainDisk "r" = .ok w ∧
      let v := ((start w).run [.reload, .disk garble]).watcher
      v.Keeps v.reload.1 ∧ v.reload.2 = .error ⟨[.readingFile "r"], .io .notUtf8⟩ := by
  intro garble
  obtain ⟨w, started, _, atPath, _⟩ := start_plain
  obtain ⟨loaded, _, onDisk, _⟩ := Watcher.start_eq_ok started
  rw [← atPath, ← onDisk] at loaded
  have here : (plainDisk.put ["r"] (.file [0xff])).at? ["r"] = some (.file [0xff]) := by
    decide +kernel
  have garbled : Bytes.toText? [0xff] = none := by decide +kernel
  have refused : Settings.Refused "r" [0xff] ⟨[.readingFile "r"], .io .notUtf8⟩ := .notText garbled
  have fails := Settings.load_of_refused (Route.isName_r.read here) refused
  have samePath := (Watcher.reload_of_loaded loaded).1.path.trans atPath
  have holdsUp : (start w).HoldsUp ([.reload, .disk garble] ++ [.reload]) := by
    refine ⟨fun _ fault broken => ?_, nofun, fun _ fault broken => ?_, trivial⟩
    · cases loaded.symm.trans broken
    · simp only [move, start, samePath, garble, fails, Except.error.injEq] at broken
      rw [← broken]
      rfl
  obtain ⟨changesNothing, _⟩ :=
    publishes_all_or_nothing started [.reload, .disk garble] .reload (by decide) holdsUp
  have read : (garble w.reload.1.disk).read w.reload.1.path = .ok [0xff] := by
    rw [samePath]
    exact Route.isName_r.read here
  obtain ⟨keeps, told⟩ := (changesNothing [0xff] read).1 _ (.notText garbled)
  refine ⟨w, started, keeps, ?_⟩
  simpa only [run, List.foldl, move, start, samePath] using (told rfl).1

/-- Settings whose relay rests for longer than the longest time. -/
def restlessText : String :=
  "[[relays]]\nport = 1\nupstream_port = 2\nrestart_delay = '18446744073709551615s 1000000000ns'\n"

/-- Settings that rest for too long break down whoever asks for them, who is then told nothing. -/
theorem reload_breaks_down_over_pause :
    ¬∀ (disk : Disk) (path : String) (w : Watcher), Watcher.start disk path = .ok w →
      ∀ (before : List Happening) (content : Bytes) (fault : Failure),
        (∀ x ∈ before, x.isWhole = true) →
        let v := ((start w).run before).watcher
        v.disk.read v.path = .ok content → Settings.Refused v.path content fault →
        ∃ told, v.reload.2 = .error told ∧ told.breakdown? = none := by
  intro all
  obtain ⟨w, started, _, atPath, _⟩ := start_plain
  let content := Bytes.ofText restlessText
  let rest : Disk → Disk := fun _ => plainDisk.put ["r"] (.file content)
  have here : (rest plainDisk).at? ["r"] = some (.file content) := by decide +kernel
  have isText : content.toText? = some restlessText := by decide +kernel
  have misread :
      (Toml.read? restlessText).map Settings.ofDocument = some (.error .spanPastLongest) := by
    decide +kernel
  obtain ⟨document, isToml, misshapen⟩ := Option.map_eq_some_iff.mp misread
  have refused :
      Settings.Refused w.path content ⟨[.parsingFile w.path], .shape .spanPastLongest⟩ :=
    .notSettings isText isToml misshapen
  have read : (rest w.disk).read w.path = .ok content := by
    rw [atPath]
    exact Route.isName_r.read here
  obtain ⟨told, ends, speaks⟩ := all plainDisk "r" w started [.disk rest] content _
    (by simp [Happening.isWhole]) read refused
  have fails := Settings.load_of_refused read refused
  cases (Watcher.reload_of_fault (w := { w with disk := rest w.disk }) fails).2.symm.trans ends
  cases speaks

end Vigil

end Wiretap
