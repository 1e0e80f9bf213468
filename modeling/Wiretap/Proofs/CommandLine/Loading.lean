import Mathlib.Control.Monad.Basic
import Wiretap.CommandLine.Startup
import Wiretap.Proofs.Watch.Service
/-! # Which settings a program starts with

Settings are validated twice on their way from a file: as the file lays them out, and again with the
options of the command line in effect. On their way from the environment they are validated once, at
the end. So options complete what the environment leaves open, but not what a file leaves open.
-/

namespace Wiretap

@[simp]
theorem during_error (activity : Activity) (fault : Failure) :
    during activity (.error fault : Except Failure α) = .error (fault.within activity) :=
  rfl

@[simp]
theorem during_ok (activity : Activity) (value : α) :
    during activity (.ok value : Except Failure α) = .ok value :=
  rfl

namespace Settings

variable {disk : Disk} {path text : String} {c : Settings}

theorem load_eq_parse (there : disk.exists? path = true) (read : textOf disk path = .ok text) :
    load disk path = during (.parsingFile path) (parse text) := by
  simp only [load, if_pos there, read]
  rfl

theorem load_of_valid (there : disk.exists? path = true) (read : textOf disk path = .ok text)
    (laid : ofText text = .ok c) (valid : c.validate = .ok ()) : load disk path = .ok c := by
  have parsed : parse text = .ok c := by
    simp only [parse, laid, valid, during_ok, bind, Except.bind, pure, Except.pure]
  rw [load_eq_parse there read, parsed, during_ok]

theorem load_of_invalid {fault : Failure} (there : disk.exists? path = true)
    (read : textOf disk path = .ok text) (laid : ofText text = .ok c)
    (invalid : c.validate = .error fault) :
    load disk path = .error ((fault.within .validating).within (.parsingFile path)) := by
  have parsed : parse text = .error (fault.within .validating) := by
    simp only [parse, laid, invalid, during_error, bind, Except.bind]
  rw [load_eq_parse there read, parsed, during_error]

theorem textOf_of_read {bytes : Bytes} (read : disk.read path = .ok bytes)
    (isText : bytes.toText? = some text) : textOf disk path = .ok text := by
  simp only [textOf, read, isText]

end Settings

namespace Program

variable {disk : Disk} {env : Environment} {a : Arguments} {c : Settings}

/-- Once there is something to start from, only the merged settings matter. -/
theorem settings_eq_ok_iff (base : baseSettings disk env a = .ok c)
    (merges : (c.merge a.overrides).2 = none) (s : Settings) :
    settings disk env a = .ok s ↔
      s = (c.merge a.overrides).1 ∧ (c.merge a.overrides).1.validate = .ok () := by
  obtain ⟨merged, eq⟩ : ∃ merged, c.merge a.overrides = (merged, none) :=
    ⟨_, Prod.ext rfl merges⟩
  simp only [settings, base, eq, bind, Except.bind, pure, Except.pure]
  cases valid : merged.validate with
  | error fault =>
      rw [during_error]
      constructor
      · intro h
        cases h
      · rintro ⟨_, h⟩
        cases h
  | ok =>
      rw [during_ok]
      constructor
      · intro h
        cases h
        exact ⟨rfl, rfl⟩
      · rintro ⟨rfl, _⟩
        rfl

theorem settings_of_refused {fault : Failure} (base : baseSettings disk env a = .error fault) :
    settings disk env a = .error fault := by
  simp only [settings, base, bind, Except.bind]

/-- A program that gets to run its relays has accepted settings and an inspector built from them. -/
theorem start_eq_runs {i : Invocation} {p : Setup} (starts : start i = .runs p) :
    settings i.disk i.environment p.arguments = .ok p.settings ∧
      Inspector.build i.disk p.settings.inspector = .ok (p.inspector, p.disk) := by
  simp only [start] at starts
  split at starts
  · cases starts
  · cases starts
  · cases starts
  · rename_i a _
    split at starts
    · cases starts
    · rename_i s accepted
      simp only [startWith] at starts
      split at starts
      · cases starts
      · split at starts
        · cases starts
        · cases built : Inspector.build i.disk s.inspector with
          | error fault =>
              rw [built] at starts
              cases starts
          | ok made =>
              rw [built] at starts
              cases starts
              exact ⟨accepted, built⟩

theorem start_of_settings {i : Invocation} {a : Arguments} {s : Settings} {inspector : Inspector}
    {next : Disk} (request : Request.ofArguments i.arguments = .ok (.run a))
    (accepted : settings i.disk i.environment a = .ok s)
    (sound : (filter i.environment a s).isBroken = false) (runs : a.onlyValidates = false)
    (built : Inspector.build i.disk s.inspector = .ok (inspector, next)) :
    ∃ p, start i = .runs p ∧ p.arguments = a ∧ p.settings = s ∧ p.inspector = inspector ∧
      p.disk = next := by
  simp only [start, request, accepted, startWith, sound, runs, built, during_ok]
  exact ⟨_, rfl, rfl, rfl, rfl, rfl⟩

/-- When a program gets past the loading of its settings. What the file lays out has to be valid both
as it is and with the options in effect; what comes from the environment, only with the options in
effect. A file that is not valid as it is is refused for its own fault, whatever the options. -/
theorem settings_accepted_iff (disk : Disk) (env : Environment) (a : Arguments) (c : Settings)
    (merges : (c.merge a.overrides).2 = none) :
    let merged := (c.merge a.overrides).1
    (∀ text, disk.exists? a.config = true → Settings.textOf disk a.config = .ok text →
      Settings.ofText text = .ok c →
      ((∃ s, settings disk env a = .ok s) ↔ c.validate = .ok () ∧ merged.validate = .ok ()) ∧
      (∀ s, settings disk env a = .ok s → s = merged) ∧
      ∀ fault, c.validate = .error fault →
        settings disk env a =
          .error ((fault.within .validating).within (.parsingFile a.config))) ∧
    (disk.exists? a.config = false → Settings.standard.applyEnvironment env = (c, none) →
      ((∃ s, settings disk env a = .ok s) ↔ merged.validate = .ok ()) ∧
      ∀ s, settings disk env a = .ok s → s = merged) := by
  intro merged
  constructor
  · intro text there read laid
    have base : baseSettings disk env a = Settings.load disk a.config := if_pos there
    cases valid : c.validate with
    | error fault =>
        rw [Settings.load_of_invalid there read laid valid] at base
        have refused := settings_of_refused base
        refine ⟨⟨?_, ?_⟩, ?_, ?_⟩
        · rintro ⟨s, accepted⟩
          rw [refused] at accepted
          cases accepted
        · rintro ⟨h, _⟩
          cases h
        · intro s accepted
          rw [refused] at accepted
          cases accepted
        · intro other h
          cases h
          exact refused
    | ok =>
        rw [Settings.load_of_valid there read laid valid] at base
        have accepted := settings_eq_ok_iff base merges
        refine ⟨⟨?_, ?_⟩, fun s h => ((accepted s).mp h).1, ?_⟩
        · rintro ⟨s, h⟩
          exact ⟨rfl, ((accepted s).mp h).2⟩
        · rintro ⟨_, h⟩
          exact ⟨merged, (accepted merged).mpr ⟨rfl, h⟩⟩
        · intro fault h
          cases h
  · intro missing applied
    have base : baseSettings disk env a = .ok c := by
      rw [baseSettings, if_neg (by simp [missing]), Settings.ofEnvironment, applied]
    have accepted := settings_eq_ok_iff base merges
    refine ⟨⟨?_, ?_⟩, fun s h => ((accepted s).mp h).1⟩
    · rintro ⟨s, h⟩
      exact ((accepted s).mp h).2
    · intro h
      exact ⟨merged, (accepted merged).mpr ⟨rfl, h⟩⟩

/-- A valid file with another local number, and the standard settings with a target. -/
theorem settings_accepted_overridden :
    let moved : Arguments := { config := "r", overrides := { localPort := some 3 } }
    let aimed : Arguments := { config := "r", overrides := { targetPort := some 2 } }
    let gone := Vigil.plainDisk.removeAt "r"
    (Vigil.plainDisk.exists? "r" = true ∧
      ∃ s, settings Vigil.plainDisk (fun _ => none) moved = .ok s) ∧
    gone.exists? "r" = false ∧ ∃ s, settings gone (fun _ => none) aimed = .ok s := by
  intro moved aimed gone
  let text := "[[relays]]\nport = 1\nupstream_port = 2\n"
  let c : Settings :=
    ⟨"info", [⟨1, .anyV4, "127.0.0.1", some 2, 4096, .zero⟩], .log 64, .standard⟩
  have placed : Vigil.plainDisk.at? ["r"] = some (.file (Bytes.ofText text)) := by decide +kernel
  have there : Vigil.plainDisk.exists? "r" = true := Route.isName_r.exists? placed
  have read : Settings.textOf Vigil.plainDisk "r" = .ok text :=
    Settings.textOf_of_read (Route.isName_r.read placed) (by decide +kernel)
  have laid : Settings.ofText text = .ok c := by decide +kernel
  have file := (settings_accepted_iff Vigil.plainDisk (fun _ => none) moved c rfl).1 text there read laid
  have missing : gone.exists? "r" = false := Route.isName_r.exists?_removeAt _
  have applied : Settings.standard.applyEnvironment (fun _ => none) = (.standard, none) := rfl
  have bare := (settings_accepted_iff gone (fun _ => none) aimed .standard rfl).2 missing applied
  exact ⟨⟨there, file.1.mpr ⟨by decide +kernel, by decide +kernel⟩⟩, missing,
    bare.1.mpr (by decide +kernel)⟩

/-- A file that leaves the target open is refused, although the options give one. -/
theorem completed_file_refused :
    ¬∀ (disk : Disk) (env : Environment) (a : Arguments) (c : Settings) (text : String),
      disk.exists? a.config = true → Settings.textOf disk a.config = .ok text →
      Settings.ofText text = .ok c → (c.merge a.overrides).2 = none →
      ((∃ s, settings disk env a = .ok s) ↔ (c.merge a.overrides).1.validate = .ok ()) := by
  intro claimed
  let text := "[[relays]]\nport = 1\n"
  let bytes := Bytes.ofText text
  let disk := Disk.blank.put ["r"] (.file bytes)
  let a : Arguments := { config := "r", overrides := { targetPort := some 2 } }
  let c : Settings := ⟨"info", [.atPort 1], .log 64, .standard⟩
  have placed : disk.at? ["r"] = some (.file bytes) := by decide +kernel
  have there : disk.exists? "r" = true := Route.isName_r.exists? placed
  have read : Settings.textOf disk "r" = .ok text :=
    Settings.textOf_of_read (Route.isName_r.read placed) (by decide +kernel)
  have laid : Settings.ofText text = .ok c := by decide +kernel
  have invalid : c.validate = .error ⟨[.validatingRelays], .rule (.selfLoop 1 ⟨"127.0.0.1", 1⟩)⟩ := by
    decide +kernel
  have completed : (c.merge a.overrides).1.validate = .ok () := by decide +kernel
  obtain ⟨s, accepted⟩ := (claimed disk (fun _ => none) a c text there read laid rfl).mpr completed
  have base : baseSettings disk (fun _ => none) a = Settings.load disk "r" := if_pos there
  rw [Settings.load_of_invalid there read laid invalid] at base
  rw [settings_of_refused base] at accepted
  cases accepted

end Program

end Wiretap
