import Mathlib.Algebra.BigOperators.Group.List.Basic
import Mathlib.Algebra.GroupWithZero.Nat
import Mathlib.Data.List.Induction
import Mathlib.Data.List.Nodup
import Wiretap.Proofs.Counters.Values
/-! # Calls to the counters

Who counts something or asks for a counter says what it counts, and the counter is found by the text of
its labels. Kinds of failures do not begin with a digit, so no two counters have the same text: a counter
holds what was recorded of that which it counts, and there is one for everything that was recorded or
asked for.
-/

namespace Wiretap

open Counters (portLabel)

/-- A kind of failure. It stands behind a port and can be told from it. -/
@[ext] structure FaultKind where
  text : String
  plain : text.toList.takeWhile Char.isDigit = []
  deriving DecidableEq

def RelayFault.faultKind (fault : RelayFault) : FaultKind :=
  ⟨fault.kind, Counters.takeWhile_isDigit_of_mem_kinds _ fault.kind_mem_kinds⟩

/-- What a counter counts. -/
inductive CounterName where
  | bytes (localPort : UInt16) (direction : Direction)
  | chunks (localPort : UInt16) (direction : Direction)
  | inspectionFailures (localPort : UInt16)
  | sessions (localPort : UInt16)
  | setupFailures (localPort : UInt16) (kind : FaultKind)
  deriving DecidableEq

namespace CounterName

def family : CounterName → Family
  | bytes .. => .bytes
  | chunks .. => .chunks
  | inspectionFailures _ => .inspectionFailures
  | sessions _ => .sessions
  | setupFailures .. => .setupFailures

def localPort : CounterName → UInt16
  | bytes p _ | chunks p _ | inspectionFailures p | sessions p | setupFailures p _ => p

/-- The value of the label that stands behind the port. -/
def detail? : CounterName → Option String
  | bytes _ direction | chunks _ direction => some direction.name
  | inspectionFailures _ | sessions _ => none
  | setupFailures _ kind => some kind.text

def labels (name : CounterName) : List String := portLabel name.localPort :: name.detail?.toList

def counter (name : CounterName) (value : UInt64) : Counter := ⟨name.family, name.labels, value⟩

variable {a b : CounterName}

theorem ext_of_family (family : a.family = b.family) (localPort : a.localPort = b.localPort)
    (detail : a.detail?.getD "" = b.detail?.getD "") : a = b := by
  have directions {d e : Direction} (same : d.name = e.name) : d = e := by
    cases d <;> cases e <;> first | rfl | (revert same; decide)
  cases a with
  | bytes =>
      cases b with
      | bytes => exact congrArg₂ bytes localPort (directions detail)
      | _ => cases family
  | chunks =>
      cases b with
      | chunks => exact congrArg₂ chunks localPort (directions detail)
      | _ => cases family
  | inspectionFailures =>
      cases b with
      | inspectionFailures => exact congrArg inspectionFailures localPort
      | _ => cases family
  | sessions =>
      cases b with
      | sessions => exact congrArg sessions localPort
      | _ => cases family
  | setupFailures =>
      cases b with
      | setupFailures => exact congrArg₂ setupFailures localPort (FaultKind.ext detail)
      | _ => cases family

theorem join_labels (a : CounterName) :
    String.join a.labels = portLabel a.localPort ++ a.detail?.getD "" := by
  cases a <;> simp [labels, localPort, detail?, String.join]

/-- No detail begins with a digit. -/
theorem detail_plain (a : CounterName) : (a.detail?.getD "").toList.takeWhile Char.isDigit = [] := by
  have directions (d : Direction) : d.name.toList.takeWhile Char.isDigit = [] := by cases d <;> rfl
  cases a with
  | bytes p direction | chunks p direction => exact directions direction
  | inspectionFailures | sessions => rfl
  | setupFailures p kind => exact kind.plain

end CounterName

/-- A call to the counters: something is recorded, or a counter is asked for. -/
inductive CounterCall where
  | session (localPort : UInt16)
  | setupFailure (localPort : UInt16) (kind : FaultKind)
  | chunk (localPort : UInt16) (direction : Direction) (size : Nat)
  | inspectionFailure (localPort : UInt16)
  | ask (name : CounterName)
  deriving DecidableEq

namespace Counters

/-- What a counter is at, and the counters after it was asked for. -/
def ask (name : CounterName) (cs : Counters) : UInt64 × Counters := cs.get name.family name.labels

def call (cs : Counters) : CounterCall → Counters
  | .session p => cs.recordSession p
  | .setupFailure p kind => cs.recordSetupFailure p kind.text
  | .chunk p direction size => cs.recordChunk p direction size
  | .inspectionFailure p => cs.recordInspectionFailure p
  | .ask name => (cs.ask name).2

/-- The failures that relays record are among them. -/
example (p : UInt16) (fault : RelayFault) (cs : Counters) :
    cs.recordSetupFailure p fault.kind = cs.call (.setupFailure p fault.faultKind) := rfl

def after (calls : List CounterCall) : Counters := calls.foldl call .none

end Counters

/-- The size of a chunk that is recorded for a direction of a port. -/
def CounterCall.size? (p : UInt16) (direction : Direction) : CounterCall → Option Nat
  | chunk q way size => if q = p ∧ way = direction then some size else none
  | _ => none

def recordedSizes (calls : List CounterCall) (p : UInt16) (direction : Direction) : List Nat :=
  calls.filterMap (CounterCall.size? p direction)

/-- What was recorded of that which a counter counts: how often, or how many octets. -/
def CounterName.recorded (calls : List CounterCall) : CounterName → Nat
  | bytes p direction => (recordedSizes calls p direction).sum
  | chunks p direction => (recordedSizes calls p direction).length
  | inspectionFailures p => calls.count (.inspectionFailure p)
  | sessions p => calls.count (.session p)
  | setupFailures p kind => calls.count (.setupFailure p kind)

/-- What a call adds to which counters. -/
def CounterCall.additions : CounterCall → List (CounterName × Nat)
  | session p => [(.sessions p, 1)]
  | setupFailure p kind => [(.setupFailures p kind, 1)]
  | chunk p direction size => [(.chunks p direction, 1), (.bytes p direction, size)]
  | inspectionFailure p => [(.inspectionFailures p, 1)]
  | ask name => [(name, 0)]

def CounterCall.names (call : CounterCall) : List CounterName := call.additions.map Prod.fst

/-! ## Counters by name -/

namespace Counters

variable {cs : Counters} {name other : CounterName} {n : Nat} {calls : List CounterCall}

/-- Names of one counter are one name. -/
theorem same_iff :
    Same name.family name.labels other.family other.labels ↔ name = other := by
  refine ⟨fun same => ?_, fun h => h ▸ ⟨rfl, rfl⟩⟩
  obtain ⟨family, text⟩ := same
  rw [name.join_labels, other.join_labels] at text
  have ports := portLabel_eq_of_append text name.detail_plain other.detail_plain
  rw [ports] at text
  exact CounterName.ext_of_family family ports ((String.append_right_inj _).mp text)

def valueOf (name : CounterName) (cs : Counters) : UInt64 := cs.value name.family name.labels

/-- Count on from the value of the counter with a name. -/
def addTo (name : CounterName) (n : UInt64) (cs : Counters) : Counters :=
  cs.add name.family name.labels n

theorem fst_ask (name : CounterName) (cs : Counters) : (cs.ask name).1 = cs.valueOf name :=
  fst_get ..

theorem valueOf_addTo (name : CounterName) (n : UInt64) (other : CounterName) (cs : Counters) :
    (cs.addTo name n).valueOf other = cs.valueOf other + if name = other then n else 0 := by
  rw [valueOf, addTo, value_add]
  exact congrArg (cs.valueOf other + ·) (if_congr same_iff rfl rfl)

theorem call_eq_foldl (cs : Counters) (call : CounterCall) :
    cs.call call = call.additions.foldl (fun cs a => cs.addTo a.1 (.ofNat a.2)) cs := by
  cases call <;> rfl

theorem after_concat (calls : List CounterCall) (call : CounterCall) :
    after (calls ++ [call]) = (after calls).call call := by
  rw [after, List.foldl_append]
  rfl

/-! ## What a counter holds -/

theorem recorded_append (calls more : List CounterCall) (name : CounterName) :
    name.recorded (calls ++ more) = name.recorded calls + name.recorded more := by
  cases name <;> simp [CounterName.recorded, recordedSizes]

/-- What a list of additions adds to one counter. -/
def share (name : CounterName) (additions : List (CounterName × Nat)) : Nat :=
  (additions.map fun a => if a.1 = name then a.2 else 0).sum

theorem valueOf_foldl_addTo (name : CounterName) (additions : List (CounterName × Nat))
    (cs : Counters) :
    (additions.foldl (fun cs a => cs.addTo a.1 (.ofNat a.2)) cs).valueOf name =
      cs.valueOf name + .ofNat (share name additions) := by
  induction additions generalizing cs with
  | nil => exact (UInt64.add_zero _).symm
  | cons a additions ih =>
      have first : share name (a :: additions) = (if a.1 = name then a.2 else 0) + share name additions :=
        List.sum_cons
      rw [List.foldl_cons, ih, valueOf_addTo, first, UInt64.ofNat_add, ← UInt64.add_assoc,
        apply_ite UInt64.ofNat]
      rfl

theorem recordedSizes_singleton (call : CounterCall) (p : UInt16) (direction : Direction) :
    recordedSizes [call] p direction = (call.size? p direction).toList := by
  rw [recordedSizes, List.filterMap_cons]
  cases call.size? p direction <;> rfl

theorem recorded_singleton (name : CounterName) (call : CounterCall) :
    name.recorded [call] = share name call.additions := by
  cases call with
  | session | setupFailure | inspectionFailure =>
      cases name <;> simp [CounterName.recorded, recordedSizes_singleton, CounterCall.size?,
        CounterCall.additions, share, List.count_singleton]
  | chunk q way size =>
      cases name with
      | bytes p direction | chunks p direction =>
          by_cases here : q = p ∧ way = direction <;>
            simp [CounterName.recorded, recordedSizes_singleton, CounterCall.size?,
              CounterCall.additions, share, here]
      | _ => simp [CounterName.recorded, CounterCall.additions, share]
  | ask =>
      cases name <;>
        simp [CounterName.recorded, recordedSizes_singleton, CounterCall.size?, CounterCall.additions, share]

theorem valueOf_call (name : CounterName) (call : CounterCall) (cs : Counters) :
    (cs.call call).valueOf name = cs.valueOf name + .ofNat (name.recorded [call]) := by
  rw [call_eq_foldl, valueOf_foldl_addTo, recorded_singleton]

theorem valueOf_after (calls : List CounterCall) (name : CounterName) :
    (after calls).valueOf name = .ofNat (name.recorded calls) := by
  induction calls using List.reverseRecOn with
  | nil => cases name <;> rfl
  | append_singleton calls call ih =>
      rw [after_concat, valueOf_call, ih, recorded_append, UInt64.ofNat_add]

/-! ## Which counters there are -/

/-- There is one counter under each of some names, and no other. -/
structure Counts (cs : Counters) (names : List CounterName) : Prop where
  distinct : names.Nodup
  counters : cs = names.map fun name => name.counter (cs.valueOf name)

variable {names : List CounterName} {value : CounterName → UInt64}

theorem isFor_counter {v : UInt64} :
    (other.counter v).isFor name.family name.labels = true ↔ other = name :=
  isFor_iff.trans same_iff

theorem addTo_map_of_mem (distinct : names.Nodup) (there : name ∈ names) (n : UInt64) :
    addTo name n (names.map fun s => s.counter (value s)) =
      names.map fun s => s.counter (value s + if name = s then n else 0) := by
  induction names with
  | nil => cases there
  | cons first names ih =>
      obtain ⟨fresh, distinct⟩ := List.nodup_cons.mp distinct
      rw [List.map_cons, List.map_cons, addTo, add]
      split
      next own =>
        obtain rfl := isFor_counter.mp own
        have others : names.map (fun s => s.counter (value s)) =
            names.map fun s => s.counter (value s + if first = s then n else 0) := by
          refine List.map_congr_left fun s later => ?_
          have other : first ≠ s := fun same => fresh (same ▸ later)
          rw [if_neg other, UInt64.add_zero]
        rw [if_pos rfl, others]
        rfl
      next foreign =>
        have other : name ≠ first := fun same => foreign (isFor_counter.mpr same.symm)
        rw [if_neg other, UInt64.add_zero]
        exact congrArg _ (ih distinct ((List.mem_cons.mp there).resolve_left other))

theorem addTo_map_of_not_mem (fresh : name ∉ names) (n : UInt64) :
    addTo name n (names.map fun s => s.counter (value s)) =
      (names.map fun s => s.counter (value s)) ++ [name.counter n] := by
  induction names with
  | nil => rfl
  | cons first names ih =>
      obtain ⟨other, fresh⟩ := not_or.mp (mt List.mem_cons.mpr fresh)
      have foreign : ¬(first.counter (value first)).isFor name.family name.labels = true :=
        fun own => other (isFor_counter.mp own).symm
      rw [List.map_cons, addTo, add, if_neg foreign]
      exact congrArg _ (ih fresh)

namespace Counts

theorem valueOf_of_not_mem (h : Counts cs names) (fresh : name ∉ names) : cs.valueOf name = 0 := by
  have none : cs.find? (Counter.isFor name.family name.labels) = Option.none := by
    rw [h.counters, List.find?_eq_none]
    intro c member own
    obtain ⟨other, there, rfl⟩ := List.mem_map.mp member
    exact fresh (isFor_counter.mp own ▸ there)
  rw [valueOf, Counters.value, none]

theorem addTo (h : Counts cs names) (name : CounterName) (n : UInt64) :
    ∃ more, Counts (cs.addTo name n) more ∧ ∀ s, s ∈ more ↔ s ∈ names ∨ s = name := by
  by_cases there : name ∈ names
  · refine ⟨names, ⟨h.distinct, ?_⟩, fun s => ?_⟩
    · simp only [valueOf_addTo]
      exact (congrArg _ h.counters).trans (addTo_map_of_mem h.distinct there n)
    · exact ⟨.inl, fun either => either.elim id (· ▸ there)⟩
  · refine ⟨names ++ [name], ⟨?_, ?_⟩, fun s => ?_⟩
    · exact List.nodup_append_comm.mp (List.nodup_cons.mpr ⟨there, h.distinct⟩)
    · have others : (names.map fun s => s.counter (cs.valueOf s)) =
          names.map fun s => s.counter ((cs.addTo name n).valueOf s) := by
        refine List.map_congr_left fun s here => ?_
        have other : name ≠ s := fun same => there (same ▸ here)
        rw [valueOf_addTo, if_neg other, UInt64.add_zero]
      have own : (cs.addTo name n).valueOf name = n := by
        rw [valueOf_addTo, h.valueOf_of_not_mem there, if_pos rfl, UInt64.zero_add]
      rw [List.map_append, List.map_singleton, own, ← others]
      exact (congrArg _ h.counters).trans (addTo_map_of_not_mem there n)
    · rw [List.mem_append, List.mem_singleton]

theorem call (h : Counts cs names) (call : CounterCall) :
    ∃ more, Counts (cs.call call) more ∧ ∀ s, s ∈ more ↔ s ∈ names ∨ s ∈ call.names := by
  rw [call_eq_foldl, CounterCall.names]
  generalize call.additions = additions
  induction additions generalizing cs names with
  | nil => exact ⟨names, h, by simp⟩
  | cons a additions ih =>
      obtain ⟨some_, added, first⟩ := h.addTo a.1 (.ofNat a.2)
      obtain ⟨more, counts, rest⟩ := ih added
      refine ⟨more, counts, fun s => ?_⟩
      rw [rest, first, List.map_cons, List.mem_cons, or_assoc]

end Counts

/-- There is a counter for all that some calls concern, and for nothing else. -/
theorem counts_after (calls : List CounterCall) :
    ∃ names, Counts (after calls) names ∧ ∀ s, s ∈ names ↔ s ∈ calls.flatMap CounterCall.names := by
  induction calls using List.reverseRecOn with
  | nil => exact ⟨[], ⟨List.nodup_nil, rfl⟩, by simp⟩
  | append_singleton calls call ih =>
      obtain ⟨names, counts, member⟩ := ih
      obtain ⟨more, counts, step⟩ := counts.call call
      refine ⟨more, after_concat calls call ▸ counts, fun s => ?_⟩
      rw [step, member, List.flatMap_append, List.flatMap_singleton, List.mem_append]

/-! ## The order of the calls -/

theorem recorded_of_perm {calls' : List CounterCall} (turned : calls.Perm calls')
    (name : CounterName) : name.recorded calls = name.recorded calls' := by
  have sizes (p : UInt16) (direction : Direction) :
      (recordedSizes calls p direction).Perm (recordedSizes calls' p direction) :=
    turned.filterMap _
  cases name with
  | bytes p direction => exact (sizes p direction).sum_nat
  | chunks p direction => exact (sizes p direction).length_eq
  | inspectionFailures | sessions | setupFailures => exact turned.count_eq _

end Counters

end Wiretap
