import Mathlib.Data.List.Basic
import Wiretap.Failure
/-! # Which settings are valid

Settings are accepted exactly when they are `Settings.Valid`, which does not speak of any order. So
the order of the relays does not matter for whether settings are accepted. It does matter for what
is reported: the first relay that breaks a rule behind the relays in front of it, and the first rule
that this relay breaks. The inspector comes into it only when all relays are fine.
-/

namespace Wiretap

namespace Relay

inductive Rule where
  | localPort
  /-- No relay in front has the same local number. -/
  | distinct
  | targetPort
  | targetHost
  | noLoop
  | bufferSize
  deriving Repr, DecidableEq

/-- The rules for a relay in the order in which they are looked at. -/
def Rule.inOrder : List Rule :=
  [.localPort, .distinct, .targetPort, .targetHost, .noLoop, .bufferSize]

/-- Whether a relay that stands behind some others breaks a rule. -/
def Breaks (r : Relay) (earlier : List Relay) : Rule → Prop
  | .localPort => r.localPort = 0
  | .distinct => r.localPort ∈ earlier.map localPort
  | .targetPort => r.targetPort = some 0
  | .targetHost => Text.trim r.targetHost = ""
  | .noLoop => r.isSelfLoop = true
  | .bufferSize => r.bufferSize = 0 ∨ maxBufferSize < r.bufferSize

instance (r : Relay) (earlier : List Relay) : DecidablePred (r.Breaks earlier) := fun rule => by
  cases rule <;> (unfold Breaks; infer_instance)

/-- What is reported of a relay that breaks a rule. -/
def breach (r : Relay) : Rule → RuleFault
  | .localPort => .zeroPort
  | .distinct => .duplicatePort r.localPort
  | .targetPort => .zeroTargetPort r.localPort
  | .targetHost => .blankTarget r.localPort
  | .noLoop => .selfLoop r.localPort r.target
  | .bufferSize => if r.bufferSize = 0 then .zeroBuffer r.localPort else .hugeBuffer r.localPort

def IsFine (r : Relay) (earlier : List Relay) : Prop := ∀ rule, ¬r.Breaks earlier rule

def BreaksFirst (r : Relay) (earlier : List Relay) (rule : Rule) : Prop :=
  ∃ before after, Rule.inOrder = before ++ rule :: after ∧ r.Breaks earlier rule ∧
    ∀ other ∈ before, ¬r.Breaks earlier other

/-- Each relay of a row, which stands behind some others, is fine behind those in front of it. -/
def AllFine (earlier relays : List Relay) : Prop :=
  ∀ front r rest, relays = front ++ r :: rest → r.IsFine (earlier ++ front)

def Knows (seen : List UInt16) (earlier : List Relay) : Prop :=
  ∀ p, p ∈ seen ↔ p ∈ earlier.map localPort

theorem Rule.mem_inOrder (rule : Rule) : rule ∈ inOrder := by cases rule <;> decide

theorem knows_nil : Knows [] [] := by simp [Knows]

variable {r : Relay} {seen : List UInt16} {earlier : List Relay}

theorem Knows.behind (h : Knows seen earlier) (r : Relay) :
    Knows (r.localPort :: seen) (earlier ++ [r]) := by
  intro p
  rw [List.mem_cons, h p, List.map_append, List.mem_append, List.map_singleton,
    List.mem_singleton, or_comm]

/-! ## One relay -/

theorem firstFault?_eq (h : Knows seen earlier) :
    r.firstFault? seen = (Rule.inOrder.find? (r.Breaks earlier ·)).map r.breach := by
  simp only [firstFault?, h r.localPort, String.isEmpty_iff]
  split_ifs <;> simp_all [Rule.inOrder, Breaks, breach]

theorem firstFault?_eq_none_iff (h : Knows seen earlier) :
    r.firstFault? seen = none ↔ r.IsFine earlier := by
  simp only [firstFault?_eq h, Option.map_eq_none_iff, List.find?_eq_none, decide_eq_true_eq]
  exact ⟨fun fine rule => fine rule rule.mem_inOrder, fun fine rule _ => fine rule⟩

theorem firstFault?_eq_some_iff (h : Knows seen earlier) {fault : RuleFault} :
    r.firstFault? seen = some fault ↔
      ∃ rule, r.BreaksFirst earlier rule ∧ fault = r.breach rule := by
  simp only [firstFault?_eq h, Option.map_eq_some_iff, List.find?_eq_some_iff_append,
    decide_eq_true_eq, Bool.not_eq_true', decide_eq_false_iff_not, BreaksFirst]
  constructor
  · rintro ⟨rule, ⟨broken, before, after, order, kept⟩, rfl⟩
    exact ⟨rule, ⟨before, after, order, broken, kept⟩, rfl⟩
  · rintro ⟨rule, ⟨before, after, order, broken, kept⟩, rfl⟩
    exact ⟨rule, ⟨broken, before, after, order, kept⟩, rfl⟩

/-- A relay that is fine behind others can be run and has a local number of its own. -/
theorem isFine_iff : r.IsFine earlier ↔ r.Sound ∧ r.localPort ∉ earlier.map localPort := by
  constructor
  · intro fine
    refine ⟨⟨fine .localPort, fine .targetPort, ?_, ?_, ?_, ?_⟩, fine .distinct⟩
    · exact Bool.eq_false_iff.mpr fun blank => fine .targetHost (String.isEmpty_iff.mp blank)
    · exact Bool.eq_false_iff.mpr (fine .noLoop)
    · exact Nat.pos_of_ne_zero fun none => fine .bufferSize (.inl none)
    · exact Nat.le_of_not_lt fun huge => fine .bufferSize (.inr huge)
  · rintro ⟨sound, own⟩ rule
    cases rule with
    | localPort => exact sound.localPort_ne
    | distinct => exact own
    | targetPort => exact sound.targetPort_ne
    | targetHost =>
        exact fun blank => Bool.eq_false_iff.mp sound.target_not_blank (String.isEmpty_iff.mpr blank)
    | noLoop => exact Bool.eq_false_iff.mp sound.not_selfLoop
    | bufferSize =>
        rintro (none | huge)
        · exact Nat.ne_of_gt sound.bufferSize_pos none
        · exact Nat.not_lt.mpr sound.bufferSize_le huge

/-! ## Rows of relays -/

theorem allFine_nil : AllFine earlier [] := by
  intro front r rest none
  simp at none

theorem allFine_cons {rest : List Relay} :
    AllFine earlier (r :: rest) ↔ r.IsFine earlier ∧ AllFine (earlier ++ [r]) rest := by
  constructor
  · intro fine
    refine ⟨by simpa using fine [] r rest rfl, fun front e others split => ?_⟩
    have := fine (r :: front) e others (congrArg (r :: ·) split)
    rwa [List.append_cons] at this
  · rintro ⟨first, fine⟩ front e others split
    cases front with
    | nil =>
        obtain ⟨rfl, _⟩ := List.cons.inj split
        rwa [List.append_nil]
    | cons f front =>
        obtain ⟨rfl, behind⟩ := List.cons.inj split
        rw [List.append_cons]
        exact fine front e others behind

theorem firstFaultIn?_eq_none_iff {relays : List Relay} (h : Knows seen earlier) :
    firstFaultIn? seen relays = none ↔ AllFine earlier relays := by
  induction relays generalizing seen earlier with
  | nil => exact iff_of_true rfl allFine_nil
  | cons r rest ih =>
      rw [firstFaultIn?, Option.or_eq_none_iff, firstFault?_eq_none_iff h, ih (h.behind r),
        allFine_cons]

/-- The first relay that breaks a rule is reported, and of its rules the first. -/
theorem firstFaultIn?_eq_some_iff {relays : List Relay} (h : Knows seen earlier)
    {fault : RuleFault} :
    firstFaultIn? seen relays = some fault ↔
      ∃ front r rest rule, relays = front ++ r :: rest ∧ AllFine earlier front ∧
        r.BreaksFirst (earlier ++ front) rule ∧ fault = r.breach rule := by
  -- The row is the rest of the relays: those in front move over into what is behind.
  induction relays generalizing seen earlier with
  | nil => simp [firstFaultIn?]
  | cons r rest ih =>
      rw [firstFaultIn?, Option.or_eq_some_iff, firstFault?_eq_some_iff h,
        firstFault?_eq_none_iff h, ih (h.behind r)]
      constructor
      · rintro (⟨rule, broken, rfl⟩ | ⟨fine, front, e, others, rule, rfl, kept, broken, rfl⟩)
        · exact ⟨[], r, rest, rule, rfl, allFine_nil, by rwa [List.append_nil], rfl⟩
        · refine ⟨r :: front, e, others, rule, rfl, allFine_cons.mpr ⟨fine, kept⟩, ?_, rfl⟩
          rwa [List.append_cons]
      · rintro ⟨front, e, others, rule, split, kept, broken, rfl⟩
        cases front with
        | nil =>
            obtain ⟨rfl, _⟩ := List.cons.inj split
            exact .inl ⟨rule, by rwa [List.append_nil] at broken, rfl⟩
        | cons f front =>
            obtain ⟨rfl, rfl⟩ := List.cons.inj split
            obtain ⟨fine, kept⟩ := allFine_cons.mp kept
            rw [List.append_cons] at broken
            exact .inr ⟨fine, front, e, others, rule, rfl, kept, broken, rfl⟩

/-- Whether a row of relays is fine does not hang on its order. -/
theorem allFine_iff {relays : List Relay} :
    AllFine earlier relays ↔
      (∀ r ∈ relays, r.Sound) ∧ (relays.map localPort).Nodup ∧
        (relays.map localPort).Disjoint (earlier.map localPort) := by
  induction relays generalizing earlier with
  | nil => simp [allFine_nil]
  | cons r rest ih =>
      rw [allFine_cons, isFine_iff, ih, List.forall_mem_cons, List.map_cons, List.nodup_cons,
        List.disjoint_cons_left, List.map_append, List.disjoint_append_right, List.map_singleton,
        List.disjoint_singleton]
      constructor
      · rintro ⟨⟨sound, own⟩, others, distinct, apart, other⟩
        exact ⟨⟨sound, others⟩, ⟨other, distinct⟩, own, apart⟩
      · rintro ⟨⟨sound, others⟩, ⟨other, distinct⟩, own, apart⟩
        exact ⟨⟨sound, own⟩, others, distinct, apart, other⟩

end Relay

namespace InspectorChoice

/-- The parameters of an inspector that make no sense. -/
inductive Lacks : InspectorChoice → RuleFault → Prop where
  | path : Lacks (.capture "") .capturePathMissing
  | preview : Lacks (.log 0) .previewEmpty

theorem fault?_eq_some_iff {choice : InspectorChoice} {fault : RuleFault} :
    choice.fault? = some fault ↔ choice.Lacks fault := by
  constructor
  · intro reported
    cases choice with
    | noop => cases reported
    | log previewBytes =>
        rw [fault?, Option.ite_none_right_eq_some] at reported
        obtain ⟨rfl, same⟩ := reported
        cases same
        exact .preview
    | capture path =>
        rw [fault?, Option.ite_none_right_eq_some, String.isEmpty_iff] at reported
        obtain ⟨rfl, same⟩ := reported
        cases same
        exact .path
  · rintro (_ | _) <;> rfl

theorem fault?_eq_none_iff {choice : InspectorChoice} : choice.fault? = none ↔ choice.Sound := by
  cases choice <;> simp [fault?, Sound]

end InspectorChoice

namespace Settings

variable {s : Settings}

theorem relaysFault?_eq_none_iff :
    s.relaysFault? = none ↔ s.relays ≠ [] ∧ Relay.AllFine [] s.relays := by
  rw [relaysFault?]
  split
  next none => simp [List.isEmpty_iff.mp none]
  next some =>
    rw [Relay.firstFaultIn?_eq_none_iff Relay.knows_nil, and_iff_right]
    simpa using some

theorem relaysFault?_eq_some_iff {fault : RuleFault} :
    s.relaysFault? = some fault ↔
      (s.relays = [] ∧ fault = .noRelays) ∨
        ∃ front r rest rule, s.relays = front ++ r :: rest ∧ Relay.AllFine [] front ∧
          r.BreaksFirst front rule ∧ fault = r.breach rule := by
  rw [relaysFault?]
  split
  next none =>
    have empty : s.relays = [] := List.isEmpty_iff.mp none
    simp only [empty, true_and, Option.some.injEq]
    refine ⟨fun h => .inl h.symm, ?_⟩
    rintro (same | ⟨front, r, rest, rule, split, _⟩)
    · exact same.symm
    · simp at split
  next some =>
    have nonempty : s.relays ≠ [] := by simpa using some
    rw [Relay.firstFaultIn?_eq_some_iff Relay.knows_nil, or_iff_right (nonempty ·.1)]
    simp only [List.nil_append]

/-- Settings stay valid when their relays change places. -/
theorem Valid.perm {relays : List Relay} (h : s.Valid) (same : relays.Perm s.relays) :
    ({ s with relays } : Settings).Valid where
  relays_ne empty := h.relays_ne (same.symm.trans (.of_eq empty)).eq_nil
  localPorts_distinct := (same.map Relay.localPort).nodup_iff.mpr h.localPorts_distinct
  relays_sound r member := h.relays_sound r (same.mem_iff.mp member)
  inspector_sound := h.inspector_sound

theorem validate_eq_ok_iff : s.validate = .ok () ↔ s.Valid := by
  have valid : s.Valid ↔ s.relaysFault? = none ∧ s.inspector.fault? = none := by
    rw [relaysFault?_eq_none_iff, Relay.allFine_iff, InspectorChoice.fault?_eq_none_iff]
    constructor
    · intro h
      exact ⟨⟨h.relays_ne, h.relays_sound, h.localPorts_distinct, List.disjoint_nil_right _⟩,
        h.inspector_sound⟩
    · rintro ⟨⟨nonempty, sound, distinct, _⟩, inspector⟩
      exact ⟨nonempty, distinct, sound, inspector⟩
  rw [valid, validate]
  cases s.relaysFault? <;> cases s.inspector.fault? <;> simp

theorem validate_eq_error_iff {failure : Failure} :
    s.validate = .error failure ↔
      (∃ fault, s.relaysFault? = some fault ∧ failure = ⟨[.validatingRelays], .rule fault⟩) ∨
        s.relaysFault? = none ∧
          ∃ fault, s.inspector.fault? = some fault ∧
            failure = ⟨[.validatingInspector], .rule fault⟩ := by
  rw [validate]
  cases s.relaysFault? <;> cases s.inspector.fault? <;> simp [eq_comm]

/-- Settings are accepted exactly when they are valid, in whatever order their relays are. What is
reported of others is that there is no relay; or the rule that is broken first by the first relay
that breaks one behind the relays in front of it; or, when all relays are fine, what the inspector
lacks. -/
theorem validate_exact (s : Settings) :
    (s.validate = .ok () ↔ s.Valid) ∧
    (∀ relays : List Relay, relays.Perm s.relays →
      (({ s with relays } : Settings).validate = .ok () ↔ s.validate = .ok ())) ∧
    ∀ failure, s.validate = .error failure ↔
      (s.relays = [] ∧ failure = ⟨[.validatingRelays], .rule .noRelays⟩) ∨
      (∃ front r rest rule, s.relays = front ++ r :: rest ∧ Relay.AllFine [] front ∧
        r.BreaksFirst front rule ∧ failure = ⟨[.validatingRelays], .rule (r.breach rule)⟩) ∨
      (s.relays ≠ [] ∧ Relay.AllFine [] s.relays ∧
        ∃ fault, s.inspector.Lacks fault ∧ failure = ⟨[.validatingInspector], .rule fault⟩) := by
  refine ⟨validate_eq_ok_iff, fun relays same => ?_, fun failure => ?_⟩
  · rw [validate_eq_ok_iff, validate_eq_ok_iff]
    exact ⟨fun valid => valid.perm same.symm, fun valid => valid.perm same⟩
  · rw [validate_eq_error_iff, relaysFault?_eq_none_iff]
    simp only [relaysFault?_eq_some_iff, InspectorChoice.fault?_eq_some_iff]
    constructor
    · rintro (⟨_, ⟨none, rfl⟩ | ⟨front, r, rest, rule, split, fine, first, rfl⟩, rfl⟩ |
        ⟨⟨some, fine⟩, lacks⟩)
      · exact .inl ⟨none, rfl⟩
      · exact .inr (.inl ⟨front, r, rest, rule, split, fine, first, rfl⟩)
      · exact .inr (.inr ⟨some, fine, lacks⟩)
    · rintro (⟨none, rfl⟩ | ⟨front, r, rest, rule, split, fine, first, rfl⟩ | ⟨some, fine, lacks⟩)
      · exact .inl ⟨_, .inl ⟨none, rfl⟩, rfl⟩
      · exact .inl ⟨_, .inr ⟨front, r, rest, rule, split, fine, first, rfl⟩, rfl⟩
      · exact .inr ⟨⟨some, fine⟩, lacks⟩

/-- A relay in its second place breaks two rules, and so does the inspector. With a relay that is
fine in that place, the settings are valid both ways round. -/
theorem validate_exact_twofold :
    let a : Relay := { Relay.atPort 1 with targetPort := some 2 }
    let b : Relay := { Relay.atPort 3 with targetHost := " other " }
    let c : Relay := { a with bufferSize := 0 }
    let faulty : Settings := { standard with relays := [a, c, b], inspector := .log 0 }
    let both : Settings := { standard with relays := [a, b] }
    faulty.validate = .error ⟨[.validatingRelays], .rule (.duplicatePort 1)⟩ ∧
      [b, a].Perm [a, b] ∧ ({ both with relays := [b, a] } : Settings).validate = .ok () := by
  intro a b c faulty both
  have fine : a.Sound := ⟨by decide, by decide, by decide, by decide +kernel, by decide, by decide⟩
  have other : b.Sound :=
    ⟨by decide, by decide, by decide +kernel, by decide +kernel, by decide, by decide⟩
  have turned : [b, a].Perm [a, b] := .swap a b []
  obtain ⟨_, _, reports⟩ := validate_exact faulty
  obtain ⟨accepts, turns, _⟩ := validate_exact both
  refine ⟨(reports _).mpr (.inr (.inl ⟨[a], c, [b], .distinct, rfl, ?_, ?_, rfl⟩)), turned,
    (turns _ turned).mpr (accepts.mpr ⟨by simp [both], by decide, ?_, (by decide : 64 ≠ 0)⟩)⟩
  · exact Relay.allFine_iff.mpr ⟨by simpa using fine, by simp, List.disjoint_nil_right _⟩
  · exact ⟨[.localPort], _, rfl, List.mem_singleton.mpr rfl, by simp [Relay.Breaks, c, a, Relay.atPort]⟩
  · simp [both, fine, other]

end Settings

end Wiretap
