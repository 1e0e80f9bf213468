import Mathlib.Data.List.Basic
import Wiretap.Settings.Overrides
/-! # What overrides come to

The variables of the environment take effect one after another, up to the first that is set to
something it refuses. What they come to does not show their order: each setting has what its own
variable is set to, or stays as it was (`Settings.under`). Options of the command line take effect
after that, all of them, also when the kind of inspector is unknown.
-/

namespace Wiretap

namespace Variable

deriving instance ReflBEq, LawfulBEq for Variable

theorem name_injective : Function.Injective name := by
  intro v w same
  cases v <;> cases w <;> first | rfl | simp [name] at same

theorem mem_all (v : Variable) : v ∈ all := by cases v <;> simp [all]

inductive Refuses : Variable → String → Cause → Prop where
  | localPort {text : String} {fault : Text.NumeralFault}
      (unread : Text.Numeral.readUInt16 text = .error fault) :
      Refuses .localPort text (.numeral fault)
  | bindAddress {text : String} (unread : IpAddress.ofText? text = none) :
      Refuses .bindAddress text .address
  | targetPort {text : String} {fault : Text.NumeralFault}
      (unread : Text.Numeral.readUInt16 text = .error fault) :
      Refuses .targetPort text (.numeral fault)
  | bufferSize {text : String} {fault : Text.NumeralFault}
      (unread : Text.Numeral.readUInt64 text = .error fault) :
      Refuses .bufferSize text (.numeral fault)
  | restartDelay {text : String} {fault : SpellingFault}
      (unread : Span.read text = .error fault) :
      Refuses .restartDelay text (.spelling fault)

end Variable

namespace Environment

variable (env : Environment)

/-- What a variable is set to, if that can be read. -/
def value? {α : Type} (v : Variable) (read : String → Option α) : Option α :=
  (env v.name).bind read

/-- An environment with some of its variables. -/
def only (vs : List Variable) : Environment := fun name =>
  if name ∈ vs.map Variable.name then env name else none

def Suits (v : Variable) : Prop :=
  ∀ text cause, env v.name = some text → ¬v.Refuses text cause

/-- The variables that take effect, of some in a row, and the failure that ends it. -/
inductive Takes : List Variable → List Variable → Option Failure → Prop where
  | all {vs : List Variable} (suit : ∀ w ∈ vs, env.Suits w) : Takes vs vs none
  | upTo {taken after : List Variable} {v : Variable} {text : String} {cause : Cause}
      (suit : ∀ w ∈ taken, env.Suits w) (set : env v.name = some text)
      (refused : v.Refuses text cause) :
      Takes (taken ++ v :: after) taken (some ⟨[.overriding v.name text], cause⟩)

variable {env} {vs taken : List Variable}

theorem Takes.all_suit (h : env.Takes vs taken none) : taken = vs ∧ ∀ w ∈ vs, env.Suits w := by
  cases h with
  | all suit => exact ⟨rfl, suit⟩

theorem Takes.ended {failure : Failure} (h : env.Takes vs taken (some failure)) :
    ∃ v after text cause, vs = taken ++ v :: after ∧ (∀ w ∈ taken, env.Suits w) ∧
      env v.name = some text ∧ v.Refuses text cause ∧
      failure = ⟨[.overriding v.name text], cause⟩ := by
  cases h with
  | upTo suit set refused => exact ⟨_, _, _, _, rfl, suit, set, refused, rfl⟩

theorem value?_of_set {α : Type} {v : Variable} {text : String} (set : env v.name = some text)
    (read : String → Option α) : env.value? v read = read text := by
  rw [value?, set]
  rfl

theorem value?_only {α : Type} (env : Environment) (vs : List Variable) (v : Variable)
    (read : String → Option α) :
    (env.only vs).value? v read = if v ∈ vs then env.value? v read else none := by
  simp only [value?, only, List.mem_map_of_injective Variable.name_injective]
  split <;> rfl

end Environment

def Variable.portOf? (text : String) : Option UInt16 := (Text.Numeral.readUInt16 text).toOption

def Variable.sizeOf? (text : String) : Option Nat := (Text.Numeral.readUInt64 text).toOption

def Variable.spanOf? (text : String) : Option Span := (Span.read text).toOption

/-- A relay as an environment has it. -/
def Relay.under (env : Environment) (r : Relay) : Relay where
  localPort := (env.value? .localPort Variable.portOf?).getD r.localPort
  bindAddress := (env.value? .bindAddress IpAddress.ofText?).getD r.bindAddress
  targetHost := (env.value? .targetHost some).getD r.targetHost
  targetPort := (env.value? .targetPort Variable.portOf?).or r.targetPort
  bufferSize := (env.value? .bufferSize Variable.sizeOf?).getD r.bufferSize
  restartDelay := (env.value? .restartDelay Variable.spanOf?).getD r.restartDelay

namespace Settings

/-- The first relay, or the one that stands in when there is none. -/
def firstRelay (s : Settings) : Relay := s.relays.headD standardRelay

def under (env : Environment) (s : Settings) : Settings :=
  { s with
    logLevel := (env.value? .logLevel some).getD s.logLevel
    relays := s.firstRelay.under env :: s.relays.tail }

variable {s : Settings} {env : Environment}

theorem relays_under_ne (s : Settings) : (s.under env).relays ≠ [] := List.cons_ne_nil _ _

theorem under_of_unset (nonempty : s.relays ≠ []) (unset : ∀ v : Variable, env v.name = none) :
    s.under env = s := by
  obtain ⟨r, rest, row⟩ := List.exists_cons_of_ne_nil nonempty
  cases s
  cases row
  simp [under, firstRelay, Relay.under, Environment.value?, unset]

theorem under_only_nil (nonempty : s.relays ≠ []) : s.under (env.only []) = s :=
  under_of_unset nonempty fun _ => rfl

theorem under_only_unset {v : Variable} (nonempty : s.relays ≠ []) (unset : env v.name = none) :
    s.under (env.only [v]) = s := by
  refine under_of_unset nonempty fun w => ?_
  simp only [Environment.only, List.map_singleton, List.mem_singleton, ite_eq_right_iff]
  intro same
  rw [same, unset]

theorem under_under (us vs : List Variable) :
    (s.under (env.only us)).under (env.only vs) = s.under (env.only (us ++ vs)) := by
  have sets {α : Type} (v : Variable) (read : String → Option α) (was : α) :
      ((env.only vs).value? v read).getD (((env.only us).value? v read).getD was) =
        ((env.only (us ++ vs)).value? v read).getD was := by
    simp only [Environment.value?_only, List.mem_append]
    cases env.value? v read with
    | none => simp
    | some value => by_cases first : v ∈ us <;> by_cases second : v ∈ vs <;> simp [first, second]
  have aims (v : Variable) (read : String → Option UInt16) (was : Option UInt16) :
      ((env.only vs).value? v read).or (((env.only us).value? v read).or was) =
        ((env.only (us ++ vs)).value? v read).or was := by
    simp only [Environment.value?_only, List.mem_append]
    cases env.value? v read with
    | none => simp
    | some value => by_cases first : v ∈ us <;> by_cases second : v ∈ vs <;> simp [first, second]
  simp [under, firstRelay, Relay.under, sets, aims]

theorem under_only_all : s.under (env.only Variable.all) = s.under env := by
  simp only [under, Relay.under, Environment.value?_only, Variable.mem_all, if_true]

end Settings

namespace Variable

variable {s : Settings} {env : Environment} {v : Variable} {text : String} {cause : Cause}

theorem apply_of_refuses (h : v.Refuses text cause) (s : Settings) :
    v.apply text s = .error cause := by
  cases h with
  | localPort unread | targetPort unread | bufferSize unread | restartDelay unread =>
      simp only [apply, number, unread]
      rfl
  | bindAddress unread => simp only [apply, unread]

/-- What a variable does not refuse takes effect, and nothing else does. -/
theorem apply_of_suits (nonempty : s.relays ≠ []) (set : env v.name = some text)
    (suits : env.Suits v) : v.apply text s = .ok (s.under (env.only [v])) := by
  obtain ⟨r, rest, row⟩ := List.exists_cons_of_ne_nil nonempty
  cases s
  cases row
  simp only [Settings.under, Settings.firstRelay, Relay.under, Environment.value?_only,
    List.mem_singleton]
  cases v with
  | localPort =>
      cases read : Text.Numeral.readUInt16 text with
      | error fault => exact absurd (.localPort read) (suits _ _ set)
      | ok p =>
          have value := Environment.value?_of_set set portOf?
          rw [portOf?, read] at value
          simp only [apply, number, read, reduceCtorEq, if_true, if_false, value]
          rfl
  | bindAddress =>
      cases read : IpAddress.ofText? text with
      | none => exact absurd (.bindAddress read) (suits _ _ set)
      | some ip =>
          have value := Environment.value?_of_set set IpAddress.ofText?
          rw [read] at value
          simp only [apply, read, reduceCtorEq, if_true, if_false, value]
          rfl
  | targetHost =>
      have value := Environment.value?_of_set set some
      simp only [apply, reduceCtorEq, if_true, if_false, value]
      rfl
  | targetPort =>
      cases read : Text.Numeral.readUInt16 text with
      | error fault => exact absurd (.targetPort read) (suits _ _ set)
      | ok p =>
          have value := Environment.value?_of_set set portOf?
          rw [portOf?, read] at value
          simp only [apply, number, read, reduceCtorEq, if_true, if_false, value]
          rfl
  | bufferSize =>
      cases read : Text.Numeral.readUInt64 text with
      | error fault => exact absurd (.bufferSize read) (suits _ _ set)
      | ok size =>
          have value := Environment.value?_of_set set sizeOf?
          rw [sizeOf?, read] at value
          simp only [apply, read, reduceCtorEq, if_true, if_false, value]
          rfl
  | restartDelay =>
      cases read : Span.read text with
      | error fault => exact absurd (.restartDelay read) (suits _ _ set)
      | ok pause =>
          have value := Environment.value?_of_set set spanOf?
          rw [spanOf?, read] at value
          simp only [apply, read, reduceCtorEq, if_true, if_false, value]
          rfl
  | logLevel =>
      have value := Environment.value?_of_set set some
      simp only [apply, reduceCtorEq, if_true, if_false, value]
      rfl

/-- Which of some variables take effect, and what ends it, hangs on the environment only. -/
theorem applyAll_takes (env : Environment) (vs : List Variable) :
    ∃ taken failure?, env.Takes vs taken failure? ∧
      ∀ s : Settings, s.relays ≠ [] → applyAll env vs s = (s.under (env.only taken), failure?) := by
  induction vs with
  | nil =>
      refine ⟨[], none, .all (by simp), fun s nonempty => ?_⟩
      rw [applyAll, Settings.under_only_nil nonempty]
  | cons v rest ih =>
      obtain ⟨taken, failure?, takes, effect⟩ := ih
      have goesOn (suits : env.Suits v) : env.Takes (v :: rest) (v :: taken) failure? := by
        cases takes with
        | all suit => exact .all (List.forall_mem_cons.mpr ⟨suits, suit⟩)
        | upTo suit set refused =>
            exact .upTo (List.forall_mem_cons.mpr ⟨suits, suit⟩) set refused
      cases set : env v.name with
      | none =>
          have suits : env.Suits v := fun text cause here => by simp [set] at here
          refine ⟨v :: taken, failure?, goesOn suits, fun s nonempty => ?_⟩
          have both : (s.under (env.only [v])).under (env.only taken) =
              s.under (env.only (v :: taken)) := Settings.under_under [v] taken
          rw [Settings.under_only_unset nonempty set] at both
          simp only [applyAll, set, effect s nonempty, both]
      | some text =>
          by_cases refused : ∃ cause, v.Refuses text cause
          · obtain ⟨cause, refused⟩ := refused
            have takes : env.Takes ([] ++ v :: rest) [] _ := .upTo (by simp) set refused
            refine ⟨[], _, takes, fun s nonempty => ?_⟩
            simp only [applyAll, set, apply_of_refuses refused, Settings.under_only_nil nonempty]
          · have suits : env.Suits v := by
              intro other cause here refuses
              cases set.symm.trans here
              exact refused ⟨cause, refuses⟩
            refine ⟨v :: taken, failure?, goesOn suits, fun s nonempty => ?_⟩
            simp only [applyAll, set, apply_of_suits nonempty set suits,
              effect _ s.relays_under_ne, Settings.under_under]
            rfl

end Variable

namespace Settings

theorem under_withRelay (s : Settings) (env : Environment) : s.withRelay.under env = s.under env := by
  unfold withRelay
  split
  next none => simp [under, firstRelay, List.isEmpty_iff.mp none]
  next => rfl

theorem relays_withRelay_ne (s : Settings) : s.withRelay.relays ≠ [] := by
  unfold withRelay
  split
  next => exact List.cons_ne_nil _ _
  next some => simpa using some

theorem applyEnvironment_takes (env : Environment) :
    ∃ taken failure?, env.Takes Variable.all taken failure? ∧
      ∀ s : Settings, s.applyEnvironment env = (s.under (env.only taken), failure?) := by
  obtain ⟨taken, failure?, takes, effect⟩ := Variable.applyAll_takes env Variable.all
  refine ⟨taken, failure?, takes, fun s => ?_⟩
  rw [applyEnvironment, effect _ s.relays_withRelay_ne, under_withRelay]

end Settings

/-! ## Options of the command line -/

namespace Overrides

def kinds : List String := ["noop", "log", "capture"]

theorem choice_eq_error_iff {o : Overrides} {kind : String} {failure : Failure} :
    o.choice kind = .error failure ↔ kind ∉ kinds ∧ failure = .of (.unknownInspector kind) := by
  unfold choice
  split
  · simp [kinds]
  · simp [kinds]
  · simp [kinds]
  next noop log capture =>
    have unknown : kind ∉ kinds := by simpa [kinds] using ⟨noop, log, capture⟩
    simp [unknown, eq_comm]

theorem applyTo_applyTo (o : Overrides) (r : Relay) : o.applyTo (o.applyTo r) = o.applyTo r := by
  have sets {α : Type} (value : Option α) (was : α) :
      value.getD (value.getD was) = value.getD was := by cases value <;> rfl
  have aims (value was : Option UInt16) : value.or (value.or was) = value.or was := by
    cases value <;> rfl
  simp only [applyTo, sets, aims]

end Overrides

namespace Settings

theorem modifyFirst_withRelay (change : Relay → Relay) (s : Settings) :
    s.withRelay.modifyFirst change = { s with relays := change s.firstRelay :: s.relays.tail } := by
  unfold withRelay
  split
  next none => simp [modifyFirst, firstRelay, List.isEmpty_iff.mp none]
  next some =>
    obtain ⟨r, rest, row⟩ := List.exists_cons_of_ne_nil (by simpa using some)
    simp [modifyFirst, firstRelay, row]

/-- The options for the first relay take effect in any case, and the inspector if it is known. -/
theorem merge_cases (o : Overrides) (s : Settings) :
    let relays := o.applyTo s.firstRelay :: s.relays.tail
    (∃ inspector, s.merge o = ({ s with relays, inspector }, none) ∧
      ∀ kind, o.inspector = some kind → kind ∈ Overrides.kinds) ∨
    ∃ kind, o.inspector = some kind ∧ kind ∉ Overrides.kinds ∧
      s.merge o = ({ s with relays }, some (.of (.unknownInspector kind))) := by
  intro relays
  simp only [merge, modifyFirst_withRelay]
  cases o.inspector with
  | none => exact .inl ⟨s.inspector, rfl, by simp⟩
  | some kind =>
      cases chosen : o.choice kind with
      | ok inspector =>
          refine .inl ⟨inspector, by simp only [chosen]; rfl, fun other same => ?_⟩
          cases same
          by_contra unknown
          rw [Overrides.choice_eq_error_iff.mpr ⟨unknown, rfl⟩] at chosen
          cases chosen
      | error failure =>
          obtain ⟨unknown, rfl⟩ := Overrides.choice_eq_error_iff.mp chosen
          exact .inr ⟨kind, rfl, unknown, by simp only [chosen]; rfl⟩

theorem merge_merge (o : Overrides) (s : Settings) : (s.merge o).1.merge o = s.merge o := by
  simp only [merge, modifyFirst_withRelay]
  cases o.inspector with
  | none => simp [firstRelay, Overrides.applyTo_applyTo]
  | some kind =>
      cases chosen : o.choice kind with
      | ok inspector => simp [chosen, firstRelay, Overrides.applyTo_applyTo]
      | error failure => simp [chosen, firstRelay, Overrides.applyTo_applyTo]

theorem applyEnvironment_applyEnvironment (env : Environment) (s : Settings) :
    (s.applyEnvironment env).1.applyEnvironment env = s.applyEnvironment env := by
  -- The same variables take effect once more, since which ones do hangs on the environment only.
  obtain ⟨taken, failure?, _, effect⟩ := applyEnvironment_takes env
  have same : env.only (taken ++ taken) = env.only taken := by
    funext name
    simp [Environment.only]
  rw [effect, effect, under_under, same]

/-- Each setting has what its option gives, or else what its variable is set to, or else what it had;
all other settings and relays stay as they are. Both steps come to the same when they are repeated. The
environment takes effect up to the first variable that is set to something it refuses, and options
take effect as far as they are about the first relay when the kind of inspector is unknown. -/
theorem overrides_take_effect (s : Settings) (env : Environment) (o : Overrides) :
    let first := s.firstRelay
    (∀ mid out, s.applyEnvironment env = (mid, none) → mid.merge o = (out, none) →
      (∃ r, out.relays = r :: s.relays.tail ∧
        r.localPort =
          o.localPort.getD ((env.value? .localPort Variable.portOf?).getD first.localPort) ∧
        r.bindAddress =
          o.bindAddress.getD ((env.value? .bindAddress IpAddress.ofText?).getD first.bindAddress) ∧
        r.targetHost = o.targetHost.getD ((env.value? .targetHost some).getD first.targetHost) ∧
        r.targetPort =
          o.targetPort.or ((env.value? .targetPort Variable.portOf?).or first.targetPort) ∧
        r.bufferSize =
          o.bufferSize.getD ((env.value? .bufferSize Variable.sizeOf?).getD first.bufferSize) ∧
        r.restartDelay =
          (env.value? .restartDelay Variable.spanOf?).getD first.restartDelay) ∧
      out.logLevel = (env.value? .logLevel some).getD s.logLevel ∧ out.metrics = s.metrics ∧
      mid.applyEnvironment env = (mid, none) ∧ out.merge o = (out, none)) ∧
    ((s.applyEnvironment env).2 = none ↔ ∀ v, env.Suits v) ∧
    (∀ mid failure, s.applyEnvironment env = (mid, some failure) →
      ∃ before v after text cause, Variable.all = before ++ v :: after ∧
        (∀ w ∈ before, env.Suits w) ∧ env v.name = some text ∧ v.Refuses text cause ∧
        failure = ⟨[.overriding v.name text], cause⟩ ∧ mid = s.under (env.only before)) ∧
    ((s.merge o).2 = none ↔ ∀ kind, o.inspector = some kind → kind ∈ Overrides.kinds) ∧
    ∀ out failure, s.merge o = (out, some failure) →
      ∃ kind, o.inspector = some kind ∧ kind ∉ Overrides.kinds ∧
        failure = .of (.unknownInspector kind) ∧
        out = { s with relays := o.applyTo first :: s.relays.tail } := by
  intro first
  obtain ⟨taken, failure?, takes, effect⟩ := applyEnvironment_takes env
  refine ⟨fun mid out applied merged => ?_, ?_, fun mid failure applied => ?_, ?_,
    fun out failure merged => ?_⟩
  · have again := applyEnvironment_applyEnvironment env s
    have more := merge_merge o mid
    rw [applied] at again
    rw [merged] at more
    rw [effect] at applied
    obtain ⟨rfl, rfl⟩ := Prod.mk.inj applied
    obtain ⟨rfl, _⟩ := takes.all_suit
    rw [under_only_all] at merged again
    rcases merge_cases o (s.under env) with ⟨inspector, eq, _⟩ | ⟨_, _, _, eq⟩
    · obtain ⟨rfl, _⟩ := Prod.mk.inj (merged.symm.trans eq)
      rw [under_only_all]
      exact ⟨⟨_, rfl, rfl, rfl, rfl, rfl, rfl, rfl⟩, rfl, rfl, again, more⟩
    · cases merged.symm.trans eq
  · rw [effect]
    cases failure? with
    | none => exact iff_of_true rfl fun v => takes.all_suit.2 v v.mem_all
    | some failure =>
        obtain ⟨v, _, text, cause, _, _, set, refused, _⟩ := takes.ended
        exact iff_of_false nofun fun suit => suit v text cause set refused
  · rw [effect] at applied
    obtain ⟨rfl, rfl⟩ := Prod.mk.inj applied
    obtain ⟨v, after, text, cause, order, suit, set, refused, rfl⟩ := takes.ended
    exact ⟨taken, v, after, text, cause, order, suit, set, refused, rfl, rfl⟩
  · rcases merge_cases o s with ⟨inspector, eq, known⟩ | ⟨kind, named, unknown, eq⟩
    · exact iff_of_true (congrArg Prod.snd eq) known
    · rw [eq]
      exact iff_of_false nofun fun known => unknown (known kind named)
  · rcases merge_cases o s with ⟨inspector, eq, _⟩ | ⟨kind, named, unknown, eq⟩
    · cases merged.symm.trans eq
    · obtain ⟨rfl, same⟩ := Prod.mk.inj (merged.symm.trans eq)
      cases same
      exact ⟨kind, named, unknown, rfl, rfl⟩

/-- Three layers for a relay that stands in for none, and options with a kind of inspector that there
is not. -/
theorem overrides_take_effect_layered :
    let s : Settings := { standard with relays := [] }
    let env : Environment := fun name =>
      if name = "RELAYTAP_PORT" then some "4000"
      else if name = "RELAYTAP_UPSTREAM_HOST" then some "far"
      else none
    let o : Overrides := { localPort := some 5, bindAddress := some .anyV6 }
    let unknown : Overrides := { o with inspector := some "tee" }
    let mid : Settings :=
      { s with relays := [{ standardRelay with localPort := 4000, targetHost := "far" }] }
    s.applyEnvironment env = (mid, none) ∧
      (∃ r, (mid.merge o).1.relays = [r] ∧ r.localPort = 5 ∧ r.targetHost = "far" ∧
        r.bufferSize = 4096) ∧
      (mid.merge unknown).1.inspector = mid.inspector ∧
      (mid.merge unknown).1.relays = (mid.merge o).1.relays := by
  intro s env o unknown mid
  have applied : s.applyEnvironment env = (mid, none) := by decide +kernel
  have merged : mid.merge o = ((mid.merge o).1, none) := rfl
  have refused : mid.merge unknown = ((mid.merge unknown).1, some (.of (.unknownInspector "tee"))) :=
    rfl
  obtain ⟨both, _⟩ := overrides_take_effect s env o
  obtain ⟨⟨r, row, localPort, _, host, _, size, _⟩, _⟩ := both mid _ applied merged
  obtain ⟨_, _, _, _, fails⟩ := overrides_take_effect mid env unknown
  obtain ⟨kind, _, _, _, left⟩ := fails _ _ refused
  refine ⟨applied, ⟨r, row, localPort, host, size⟩, ?_, ?_⟩
  · rw [left]
  · rw [left]
    rfl

end Settings

end Wiretap
