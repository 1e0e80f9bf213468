import Wiretap.Counters.Basic
import Wiretap.Relay.Fault
/-! # What counting does to the counters

Counting changes the counter that is counted and leaves all others alone.
-/

namespace Wiretap

def RelayFault.kinds : List String :=
  ["bind", "accept", "connect", "upstream_closed", "read", "write", "peer_closed", "inspection"]

theorem RelayFault.kind_mem_kinds (fault : RelayFault) : fault.kind ∈ kinds := by
  cases fault <;> simp [kind, kinds]

namespace Counters

variable {family other : Family} {labels others : List String} {n : UInt64} {cs : Counters}

def Same (family : Family) (labels : List String) (other : Family) (others : List String) : Prop :=
  family = other ∧ String.join labels = String.join others

theorem isFor_iff {c : Counter} :
    c.isFor family labels = true ↔ Same c.family c.labels family labels := by
  have families : (c.family == family) = true ↔ c.family = family := by
    cases c.family <;> cases family <;> decide
  simp only [Counter.isFor, Same, Bool.and_eq_true, beq_iff_eq, families]

theorem value_cons_of_isFor {c : Counter} (h : c.isFor family labels = true) :
    value family labels (c :: cs) = c.value := by
  simp only [value, List.find?_cons, h]

theorem value_cons_of_not_isFor {c : Counter} (h : c.isFor family labels = false) :
    value family labels (c :: cs) = value family labels cs := by
  simp only [value, List.find?_cons, h]

theorem value_add_self (family : Family) (labels : List String) (n : UInt64) (cs : Counters) :
    value family labels (cs.add family labels n) = value family labels cs + n := by
  induction cs with
  | nil =>
      have own : Counter.isFor family labels ⟨family, labels, n⟩ = true := isFor_iff.mpr ⟨rfl, rfl⟩
      rw [add, value_cons_of_isFor own]
      exact (UInt64.zero_add n).symm
  | cons c rest ih =>
      rw [add]
      split
      next own =>
        rw [value_cons_of_isFor own, value_cons_of_isFor]
        exact own
      next foreign =>
        rw [Bool.not_eq_true] at foreign
        rw [value_cons_of_not_isFor foreign, value_cons_of_not_isFor foreign, ih]

theorem value_add_of_not_same (h : ¬ Same family labels other others) (n : UInt64) (cs : Counters) :
    value other others (cs.add family labels n) = value other others cs := by
  have foreign (c : Counter) (own : c.isFor family labels = true) : c.isFor other others = false := by
    cases also : c.isFor other others with
    | false => rfl
    | true =>
        have first := isFor_iff.mp own
        have second := isFor_iff.mp also
        exact absurd ⟨first.1.symm.trans second.1, first.2.symm.trans second.2⟩ h
  induction cs with
  | nil => rw [add, value_cons_of_not_isFor (foreign _ (isFor_iff.mpr ⟨rfl, rfl⟩))]
  | cons c rest ih =>
      rw [add]
      split
      next own =>
        rw [value_cons_of_not_isFor (foreign c own), value_cons_of_not_isFor]
        exact foreign { c with value := c.value + n } own
      next =>
        cases also : c.isFor other others with
        | true => rw [value_cons_of_isFor also, value_cons_of_isFor also]
        | false => rw [value_cons_of_not_isFor also, value_cons_of_not_isFor also, ih]

theorem value_add_of_family_ne (h : family ≠ other) (labels others : List String) (n : UInt64)
    (cs : Counters) : value other others (cs.add family labels n) = value other others cs :=
  value_add_of_not_same (fun same => h same.1) n cs

theorem value_congr (same : Same family labels other others) (cs : Counters) :
    value family labels cs = value other others cs := by
  have alike : Counter.isFor family labels = Counter.isFor other others := by
    funext c
    rw [Counter.isFor, Counter.isFor, same.1, same.2]
  rw [value, value, alike]

/-- Whatever is counted, a counter grows by that or not at all. -/
theorem value_add (family : Family) (labels : List String) (n : UInt64) (other : Family)
    (others : List String) (cs : Counters) :
    value other others (cs.add family labels n) = value other others cs +
      if family = other ∧ String.join labels = String.join others then n else 0 := by
  split
  next same => rw [← value_congr same, ← value_congr same, value_add_self]
  next differ => rw [value_add_of_not_same differ, UInt64.add_zero]

theorem fst_get (family : Family) (labels : List String) (cs : Counters) :
    (cs.get family labels).1 = cs.value family labels :=
  (value_add_self ..).trans (UInt64.add_zero _)

/-- The sessions that are counted for a port. -/
def sessionsAt (localPort : UInt16) (cs : Counters) : UInt64 :=
  cs.value .sessions [portLabel localPort]

/-- The attempts that are counted for a port as failed in some way. -/
def setupFailuresAt (localPort : UInt16) (kind : String) (cs : Counters) : UInt64 :=
  cs.value .setupFailures [portLabel localPort, kind]

/-- The sessions and the failures that are counted for a port are the same. -/
structure Spares (localPort : UInt16) (cs after : Counters) : Prop where
  sessions : after.sessionsAt localPort = cs.sessionsAt localPort
  setupFailures : ∀ kind ∈ RelayFault.kinds,
    after.setupFailuresAt localPort kind = cs.setupFailuresAt localPort kind

variable {p q : UInt16}

theorem Spares.refl (cs : Counters) : Spares p cs cs := ⟨rfl, fun _ _ => rfl⟩

theorem Spares.trans {a b c : Counters} (first : Spares p a b) (second : Spares p b c) :
    Spares p a c :=
  ⟨second.sessions.trans first.sessions,
    fun kind named => (second.setupFailures kind named).trans (first.setupFailures kind named)⟩

theorem sessionsAt_recordSession (cs : Counters) :
    (cs.recordSession p).sessionsAt p = cs.sessionsAt p + 1 :=
  value_add_self ..

theorem setupFailuresAt_recordSession (kind : String) (cs : Counters) :
    (cs.recordSession p).setupFailuresAt p kind = cs.setupFailuresAt p kind :=
  value_add_of_family_ne (by decide) ..

theorem sessionsAt_recordSetupFailure (kind : String) (cs : Counters) :
    (cs.recordSetupFailure p kind).sessionsAt p = cs.sessionsAt p :=
  value_add_of_family_ne (by decide) ..

theorem setupFailuresAt_recordSetupFailure (kind counted : String) (cs : Counters) :
    (cs.recordSetupFailure p counted).setupFailuresAt p kind =
      cs.setupFailuresAt p kind + if counted = kind then 1 else 0 := by
  split
  next same => exact same ▸ value_add_self ..
  next differ =>
    rw [UInt64.add_zero]
    refine value_add_of_not_same (fun h => differ ?_) 1 cs
    simpa [String.join] using h.2

theorem spares_recordChunk (direction : Direction) (size : Nat) (cs : Counters) :
    Spares p cs (cs.recordChunk q direction size) := by
  constructor
  · exact (value_add_of_family_ne (by decide) ..).trans
      (value_add_of_family_ne (by decide) ..)
  · exact fun _ _ => (value_add_of_family_ne (by decide) ..).trans
      (value_add_of_family_ne (by decide) ..)

theorem spares_recordInspectionFailure (cs : Counters) :
    Spares p cs (cs.recordInspectionFailure q) :=
  ⟨value_add_of_family_ne (by decide) ..,
    fun _ _ => value_add_of_family_ne (by decide) ..⟩

/-! ## Other ports -/

theorem portLabel_injective {p q : UInt16} (h : portLabel p = portLabel q) : p = q := by
  simp only [portLabel, Nat.toString_eq_ofList_toDigits, String.ofList_inj] at h
  apply UInt16.toNat_inj.mp
  rw [← Nat.ofDigitChars_ten_toDigits (n := p.toNat), h, Nat.ofDigitChars_ten_toDigits]

theorem join_port_eq_iff : String.join [portLabel p] = String.join [portLabel q] ↔ p = q := by
  refine ⟨fun h => portLabel_injective ?_, fun h => h ▸ rfl⟩
  simpa [String.join] using h

/-- A label that begins with a port's number shows where the number ends, unless a digit follows. -/
theorem portLabel_eq_of_append {kind other : String} (h : portLabel p ++ kind = portLabel q ++ other)
    (plain : kind.toList.takeWhile Char.isDigit = [])
    (otherPlain : other.toList.takeWhile Char.isDigit = []) : p = q := by
  have digits (r : UInt16) (c : Char) (member : c ∈ (portLabel r).toList) : c.isDigit = true := by
    rw [portLabel, Nat.toString_eq_ofList_toDigits, String.toList_ofList] at member
    exact Nat.isDigit_of_mem_toDigits (by decide) (by decide) member
  have read := congrArg (fun text => text.toList.takeWhile Char.isDigit) h
  simp only [String.toList_append, List.takeWhile_append_of_pos (digits _), plain, otherPlain,
    List.append_nil] at read
  exact portLabel_injective (String.toList_inj.mp read)

theorem takeWhile_isDigit_of_mem_kinds :
    ∀ kind ∈ RelayFault.kinds, kind.toList.takeWhile Char.isDigit = [] := by
  simp [RelayFault.kinds]

theorem spares_recordSession (h : q ≠ p) (cs : Counters) : Spares p cs (cs.recordSession q) :=
  ⟨value_add_of_not_same (fun same => h (join_port_eq_iff.mp same.2)) 1 cs,
    fun _ _ => value_add_of_family_ne (by decide) ..⟩

theorem spares_recordSetupFailure (h : q ≠ p) (fault : RelayFault) (cs : Counters) :
    Spares p cs (cs.recordSetupFailure q fault.kind) := by
  refine ⟨value_add_of_family_ne (by decide) ..,
    fun kind named => value_add_of_not_same (fun same => h ?_) 1 cs⟩
  exact portLabel_eq_of_append (by simpa [String.join] using same.2)
    (takeWhile_isDigit_of_mem_kinds _ fault.kind_mem_kinds)
    (takeWhile_isDigit_of_mem_kinds kind named)

/-! ## The traffic of one port -/

/-- What a reader is told of the chunks that went one way through a port. -/
def chunksAt (localPort : UInt16) (direction : Direction) (cs : Counters) : UInt64 :=
  (cs.get .chunks [portLabel localPort, direction.name]).1

/-- What a reader is told of the inspections that failed at a port. -/
def inspectionFailuresAt (localPort : UInt16) (cs : Counters) : UInt64 :=
  (cs.get .inspectionFailures [portLabel localPort]).1

theorem join_port_direction_eq_iff {d e : Direction} :
    String.join [portLabel p, d.name] = String.join [portLabel q, e.name] ↔ p = q ∧ d = e := by
  have plain (d : Direction) : d.name.toList.takeWhile Char.isDigit = [] := by cases d <;> rfl
  have names (same : d.name = e.name) : d = e := by
    cases d <;> cases e <;> first | rfl | (revert same; decide)
  constructor
  · intro h
    have labels : portLabel p ++ d.name = portLabel q ++ e.name := by simpa [String.join] using h
    obtain rfl := portLabel_eq_of_append labels (plain d) (plain e)
    exact ⟨rfl, names ((String.append_right_inj _).mp labels)⟩
  · rintro ⟨rfl, rfl⟩
    rfl

end Counters

end Wiretap
