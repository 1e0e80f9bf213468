import Mathlib.Algebra.Order.BigOperators.Group.Finset
import Mathlib.Data.Fintype.BigOperators
import Mathlib.Data.Set.Card
import Wiretap.Proofs.Lane.Inspection
import Wiretap.Proofs.Session.Counting
/-! # Lanes that share their counters

Any number of lanes, each over devices of its own, take their turns in any order and count in the
same counters, which others use as well. A failed inspection is counted at once, a chunk when it has
been forwarded. So the counter of chunks falls behind the inspections by one for every lane that was
cut off over a chunk, and by nothing else.
-/

namespace Wiretap

def LaneSetup.Serves (setup : LaneSetup) (localPort : UInt16) (direction : Direction) : Prop :=
  setup.localPort = localPort ∧ setup.direction = direction

instance (setup : LaneSetup) (localPort : UInt16) (direction : Direction) :
    Decidable (setup.Serves localPort direction) :=
  inferInstanceAs (Decidable (_ ∧ _))

/-- How many inspections were of what went one way through a port. -/
def Trace.inspectionsAt (localPort : UInt16) (direction : Direction) (t : Trace) : Nat :=
  t.shown.countP fun e => e.localPort = localPort ∧ e.direction = direction

namespace LaneRun

variable {ω : Type} (d : Devices ω) (setup : LaneSetup) (stopped : Bool) (world : ω)

/-- What counters show after a turn of a lane that counts in them. -/
def count (r : LaneRun ω) (cs : Counters) : Turn ω → Counters
  | .step =>
    (r.lane.step d r.stopped r.world).acts.foldl (fun cs act => act.count r.lane.setup cs) cs
  | .meanwhile .. => cs

theorem value_count (r : LaneRun (Traced ω)) (t : Turn ω) (cs : Counters) (family : Family)
    (labels : List String) :
    ∃ n, (r.count d.traced cs t.traced).value family labels = cs.value family labels + n ∧
      (r.turn d.traced t.traced).lane.share family labels = r.lane.share family labels + n := by
  cases t with
  | step =>
      obtain ⟨contacts, _, moves⟩ := Lane.step_moves d r.lane r.stopped r.world
      exact ⟨_, Act.value_foldl_count .., moves.share_eq family labels⟩
  | meanwhile => exact ⟨0, (UInt64.add_zero _).symm, (UInt64.add_zero _).symm⟩

/-- The lane ended over a chunk that had been inspected: a write failed, or the lane was stopped
while the chunk waited to be written. -/
def IsCutOff (turns : List (Turn ω)) : Prop :=
  (∃ report p direction fault,
    (traced d setup stopped world turns).lane.report? = some report ∧
      report.termination = .failed (.write p direction fault)) ∨
    StoppedWriting d setup stopped world turns

theorem mem_shown {turns : List (Turn ω)} {e : Event}
    (member : e ∈ (traced d setup stopped world turns).world.trace.shown) :
    e.localPort = setup.localPort ∧ e.direction = setup.direction := by
  obtain ⟨pending, level⟩ := shown_eq d setup stopped world turns
  -- A chunk that waits for its inspection has been read and not been shown.
  have mapped : e ∈ (traced d setup stopped world turns).world.trace.chunks.map
      (⟨setup.sessionId, setup.localPort, setup.direction, ·⟩) := by
    by_cases here : ∃ chunk, (traced d setup stopped world turns).lane.phase = .inspecting chunk
    · obtain ⟨chunk, here⟩ := here
      rw [pending chunk here]
      exact List.mem_append_left _ member
    · rw [← level (not_exists.mp here)]
      exact member
  obtain ⟨chunk, _, rfl⟩ := List.mem_map.mp mapped
  exact ⟨rfl, rfl⟩

theorem inspectionsAt_eq (turns : List (Turn ω)) (p : UInt16) (direction : Direction) :
    let t := (traced d setup stopped world turns).world.trace
    t.inspectionsAt p direction =
      if setup.Serves p direction then t.inspections.length else 0 := by
  intro t
  have shown : t.shown.length = t.inspections.length := List.length_map _
  split
  next own =>
    rw [← shown]
    refine List.countP_eq_length.mpr fun e member => ?_
    obtain ⟨port, way⟩ := mem_shown d setup stopped world member
    simpa [port, way, LaneSetup.Serves] using own
  next foreign =>
    refine List.countP_eq_zero.mpr fun e member => ?_
    obtain ⟨port, way⟩ := mem_shown d setup stopped world member
    simpa [port, way, LaneSetup.Serves] using foreign

variable {d setup stopped world}

/-- One chunk more was inspected than is reported if the lane was cut off, and none otherwise. -/
theorem inspections_eq_of_report {turns : List (Turn ω)} {report : LaneReport}
    (ended : (traced d setup stopped world turns).lane.report? = some report) :
    let t := (traced d setup stopped world turns).world.trace
    ∃ k, report.chunks = UInt64.ofNat k ∧
      (IsCutOff d setup stopped world turns → t.inspections.length = k + 1) ∧
      (¬IsCutOff d setup stopped world turns → t.inspections.length = k) := by
  intro t
  obtain ⟨k, counted, _, close, ahead⟩ := inspections_of_report turns ended
  have cut : IsCutOff d setup stopped world turns ↔
      (∃ p direction fault, report.termination = .failed (.write p direction fault)) ∨
        StoppedWriting d setup stopped world turns := by
    simp [IsCutOff, ended]
  rw [← cut] at ahead
  exact ⟨k, counted, ahead.mpr, fun whole => close.resolve_right (whole ∘ ahead.mp)⟩

end LaneRun

/-! ## Many lanes -/

section

variable {ι : Type} {ω : ι → Type}

/-- How lanes are laid out that share their counters. -/
structure Layout (ω : ι → Type) where
  devices (i : ι) : Devices (ω i)
  setup (i : ι) : LaneSetup
  stopped (i : ι) : Bool
  world (i : ι) : ω i

/-- Lanes under way, with a trace each, and their counters. -/
structure Convoy (ω : ι → Type) where
  runs (i : ι) : LaneRun (Traced (ω i))
  counters : Counters

namespace Convoy

/-- What happens next. -/
inductive Move (ω : ι → Type) where
  | turn (i : ι) (t : Turn (ω i))
  /-- Others use the counters and count nothing that lanes count. -/
  | others (use : Counters → Counters) (spares : ∀ cs : Counters, cs.SameTraffic (use cs))

/-- How many inspections there were of what went one way through a port. -/
def inspectionsAt [Fintype ι] (c : Convoy ω) (p : UInt16) (direction : Direction) : Nat :=
  ∑ i, (c.runs i).world.trace.inspectionsAt p direction

variable [DecidableEq ι]

def move (l : Layout ω) (c : Convoy ω) : Move ω → Convoy ω
  | .turn i t =>
    ⟨Function.update c.runs i ((c.runs i).turn (l.devices i).traced t.traced),
      (c.runs i).count (l.devices i).traced c.counters t.traced⟩
  | .others use _ => { c with counters := use c.counters }

def Move.turnOf? (i : ι) : Move ω → Option (Turn (ω i))
  | .turn j t => if same : j = i then some (same ▸ t) else none
  | .others .. => none

def turnsOf (i : ι) (moves : List (Move ω)) : List (Turn (ω i)) := moves.filterMap (Move.turnOf? i)

/-- In a move a counter that lanes count in grows by what the lanes contribute to it grows by. -/
theorem value_move [Fintype ι] (l : Layout ω) (c : Convoy ω) (m : Move ω) {family : Family}
    (traffic : family.isTraffic = true) (labels : List String) :
    ∃ n, (c.move l m).counters.value family labels = c.counters.value family labels + n ∧
      ∑ i, ((c.move l m).runs i).lane.share family labels =
        ∑ i, (c.runs i).lane.share family labels + n := by
  cases m with
  | turn i t =>
      obtain ⟨n, value, share⟩ := (c.runs i).value_count (l.devices i) t c.counters family labels
      have own : (c.move l (.turn i t)).runs i = (c.runs i).turn (l.devices i).traced t.traced :=
        Function.update_self ..
      -- The other lanes contribute what they did, so the sum is split at the lane that moves.
      have rest : ∀ j ∈ ({i} : Finset ι)ᶜ, ((c.move l (.turn i t)).runs j).lane.share family labels =
          (c.runs j).lane.share family labels := by
        intro j other
        rw [Finset.mem_compl, Finset.mem_singleton] at other
        have same : (c.move l (.turn i t)).runs j = c.runs j := Function.update_of_ne other ..
        rw [same]
      refine ⟨n, value, ?_⟩
      rw [Fintype.sum_eq_add_sum_compl i, Finset.sum_congr rfl rest, own, share, add_right_comm,
        Fintype.sum_eq_add_sum_compl i fun j => (c.runs j).lane.share family labels]
  | others use spares =>
      exact ⟨0, (spares _ family labels traffic).trans (UInt64.add_zero _).symm,
        (UInt64.add_zero _).symm⟩

end Convoy

namespace Layout

open Convoy

variable (l : Layout ω)

def start : Convoy ω := ⟨fun i => .start (l.setup i) (l.stopped i) ⟨l.world i, []⟩, .none⟩

def lane (i : ι) (turns : List (Turn (ω i))) : LaneRun (Traced (ω i)) :=
  .traced (l.devices i) (l.setup i) (l.stopped i) (l.world i) turns

variable [DecidableEq ι] (moves : List (Convoy.Move ω))

def run : Convoy ω := moves.foldl (Convoy.move l) l.start

theorem run_concat (m : Convoy.Move ω) : l.run (moves ++ [m]) = (l.run moves).move l m := by
  rw [run, List.foldl_append]
  rfl

/-- The lanes have nothing but their counters in common. -/
theorem runs_eq (i : ι) : (l.run moves).runs i = l.lane i (turnsOf i moves) := by
  induction moves using List.reverseRecOn with
  | nil => rfl
  | append_singleton moves m ih =>
      rw [run_concat, turnsOf, List.filterMap_append]
      change _ = l.lane i (turnsOf i moves ++ [m].filterMap (Convoy.Move.turnOf? i))
      cases m with
      | turn j t =>
          by_cases same : j = i
          · subst same
            have own : [Convoy.Move.turn j t].filterMap (Convoy.Move.turnOf? j) = [t] := by
              simp [Convoy.Move.turnOf?]
            rw [own, lane, LaneRun.traced_concat]
            change Function.update _ j _ j = _
            rw [Function.update_self, ih]
            rfl
          · have foreign : [Convoy.Move.turn j t].filterMap (Convoy.Move.turnOf? i) = [] := by
              simp [Convoy.Move.turnOf?, same]
            rw [foreign, List.append_nil, ← ih]
            exact Function.update_of_ne (Ne.symm same) ..
      | others use spares =>
          rw [List.filterMap_cons_none rfl, List.filterMap_nil, List.append_nil]
          exact ih

theorem inspectionsAt_run (i : ι) (p : UInt16) (direction : Direction) :
    ((l.run moves).runs i).world.trace.inspectionsAt p direction =
      if (l.setup i).Serves p direction then
        ((l.run moves).runs i).world.trace.inspections.length
      else 0 := by
  rw [runs_eq]
  exact LaneRun.inspectionsAt_eq _ _ _ _ _ p direction

/-- The lanes that went one way through a port and were cut off over a chunk. -/
def cutOffAt (p : UInt16) (direction : Direction) : Set ι :=
  {i | (l.setup i).Serves p direction ∧
    LaneRun.IsCutOff (l.devices i) (l.setup i) (l.stopped i) (l.world i) (turnsOf i moves)}

variable [Fintype ι]

/-- A counter that lanes count in shows the sum of what the lanes contribute to it. -/
theorem value_eq_sum {family : Family} (traffic : family.isTraffic = true) (labels : List String) :
    (l.run moves).counters.value family labels =
      ∑ i, ((l.run moves).runs i).lane.share family labels := by
  induction moves using List.reverseRecOn with
  | nil =>
      symm
      exact Finset.sum_eq_zero fun i _ => Lane.share_start (l.setup i) family labels
  | append_singleton moves m ih =>
      obtain ⟨n, value, share⟩ := (l.run moves).value_move l m traffic labels
      rw [run_concat, value, share, ih]

/-! ## What the counters of a port show -/

omit [DecidableEq ι] in
theorem ofNat_sum (f : ι → Nat) : UInt64.ofNat (∑ i, f i) = ∑ i, UInt64.ofNat (f i) :=
  map_sum (AddMonoidHom.mk' UInt64.ofNat UInt64.ofNat_add) f Finset.univ

theorem chunksAt_eq (p : UInt16) (direction : Direction) :
    (l.run moves).counters.chunksAt p direction =
      ∑ i, if (l.setup i).Serves p direction then ((l.run moves).runs i).lane.chunks else 0 := by
  rw [Counters.chunksAt, Counters.fst_get, l.value_eq_sum moves rfl]
  refine Finset.sum_congr rfl fun i _ => ?_
  have labels : (l.setup i).labels .chunks =
      [Counters.portLabel (l.setup i).localPort, (l.setup i).direction.name] := rfl
  rw [Lane.share, runs_eq, lane, LaneRun.traced_setup, labels]
  exact if_congr Counters.join_port_direction_eq_iff rfl rfl

theorem inspectionFailuresAt_eq (p : UInt16) :
    (l.run moves).counters.inspectionFailuresAt p =
      UInt64.ofNat (∑ i, if (l.setup i).localPort = p then
        ((l.run moves).runs i).world.trace.failures else 0) := by
  rw [Counters.inspectionFailuresAt, Counters.fst_get, l.value_eq_sum moves rfl, ofNat_sum]
  refine Finset.sum_congr rfl fun i _ => ?_
  have counts := LaneRun.traced_counts (l.devices i) (l.setup i) (l.stopped i) (l.world i)
    (turnsOf i moves)
  rw [Lane.share, LaneSetup.labels, runs_eq, lane, LaneRun.traced_setup]
  simp only [Counters.join_port_eq_iff, Lane.figure, counts.books.failures]
  split <;> rfl

/-- There are no more failures counted for a port than there were inspections. -/
theorem inspectionFailuresAt_le (p : UInt16) :
    ((l.run moves).counters.inspectionFailuresAt p).toNat ≤
      (l.run moves).inspectionsAt p .client + (l.run moves).inspectionsAt p .server := by
  rw [inspectionFailuresAt_eq, UInt64.toNat_ofNat', Convoy.inspectionsAt, Convoy.inspectionsAt,
    ← Finset.sum_add_distrib]
  refine (Nat.mod_le _ _).trans (Finset.sum_le_sum fun i _ => ?_)
  have fewer : ((l.run moves).runs i).world.trace.failures ≤
      ((l.run moves).runs i).world.trace.inspections.length := List.countP_le_length
  rw [inspectionsAt_run, inspectionsAt_run]
  split
  next own =>
    cases way : (l.setup i).direction with
    | client => simpa [LaneSetup.Serves, own, way] using fewer
    | server => simpa [LaneSetup.Serves, own, way] using fewer
  next => exact Nat.zero_le _

variable {moves}

/-- The lanes of a port and direction that were cut off make up what the counter of chunks lacks. -/
theorem inspectionsAt_eq_add (ended : ∀ i, ((l.run moves).runs i).lane.report?.isSome = true)
    (p : UInt16) (direction : Direction) :
    ∃ k, (l.run moves).counters.chunksAt p direction = UInt64.ofNat k ∧
      (l.run moves).inspectionsAt p direction = k + (l.cutOffAt moves p direction).ncard := by
  classical
  let isCut (i : ι) : Prop :=
    LaneRun.IsCutOff (l.devices i) (l.setup i) (l.stopped i) (l.world i) (turnsOf i moves)
  have each (i : ι) : ∃ k, ((l.run moves).runs i).lane.chunks = UInt64.ofNat k ∧
      ((l.run moves).runs i).world.trace.inspections.length = k + if isCut i then 1 else 0 := by
    obtain ⟨report, reported⟩ := Option.isSome_iff_exists.mp (ended i)
    have chunks : report.chunks = ((l.run moves).runs i).lane.chunks :=
      Lane.figure_of_report reported .chunks
    rw [runs_eq] at reported chunks ⊢
    obtain ⟨k, counted, cut, whole⟩ := LaneRun.inspections_eq_of_report reported
    refine ⟨k, chunks.symm.trans counted, ?_⟩
    split
    next yes => exact cut yes
    next no => exact whole no
  -- Of the chunks that lane `i` had inspected it has counted `k i`.
  choose k chunks inspections using each
  have cut : (l.cutOffAt moves p direction).ncard =
      ∑ i, if (l.setup i).Serves p direction ∧ isCut i then 1 else 0 := by
    rw [← Finset.card_filter, ← Set.ncard_coe_finset, Finset.coe_filter_univ]
    rfl
  refine ⟨∑ i, if (l.setup i).Serves p direction then k i else 0, ?_, ?_⟩
  · rw [chunksAt_eq, ofNat_sum]
    refine Finset.sum_congr rfl fun i _ => ?_
    split
    · exact chunks i
    · rfl
  · rw [cut, ← Finset.sum_add_distrib, Convoy.inspectionsAt]
    refine Finset.sum_congr rfl fun i _ => ?_
    rw [inspectionsAt_run, inspections]
    by_cases own : (l.setup i).Serves p direction <;> simp [own]

/-- Lanes that have all ended, whatever they ran over and in whatever order they took their turns:
what is counted of the chunks that went one way through a port is how many of them were inspected,
less one for every lane that was cut off over a chunk. So no more failed inspections are counted for
a port than chunks and such lanes. -/
theorem chunks_are_inspections_but_cut_off
    (ended : ∀ i, ((l.run moves).runs i).lane.report?.isSome = true) :
    let c := l.run moves
    (∀ i, c.runs i = l.lane i (turnsOf i moves)) ∧
    (∀ p direction,
      c.counters.chunksAt p direction + UInt64.ofNat (l.cutOffAt moves p direction).ncard =
        UInt64.ofNat (c.inspectionsAt p direction) ∧
      (c.inspectionsAt p direction < 2 ^ 64 →
        (c.counters.chunksAt p direction).toNat + (l.cutOffAt moves p direction).ncard =
          c.inspectionsAt p direction)) ∧
    ∀ p, (∀ direction, c.inspectionsAt p direction < 2 ^ 64) →
      (c.counters.inspectionFailuresAt p).toNat ≤
        (c.counters.chunksAt p .client).toNat + (c.counters.chunksAt p .server).toNat +
          ((l.cutOffAt moves p .client).ncard + (l.cutOffAt moves p .server).ncard) := by
  intro c
  have level (p : UInt16) (direction : Direction) (small : c.inspectionsAt p direction < 2 ^ 64) :
      (c.counters.chunksAt p direction).toNat + (l.cutOffAt moves p direction).ncard =
        c.inspectionsAt p direction := by
    obtain ⟨k, chunks, inspections⟩ := l.inspectionsAt_eq_add ended p direction
    have fits : k < UInt64.size :=
      Nat.lt_of_le_of_lt (inspections ▸ Nat.le_add_right k _) small
    rw [chunks, UInt64.toNat_ofNat_of_lt' fits, inspections]
  refine ⟨l.runs_eq moves, fun p direction => ⟨?_, level p direction⟩, fun p small => ?_⟩
  · obtain ⟨k, chunks, inspections⟩ := l.inspectionsAt_eq_add ended p direction
    rw [chunks, inspections, UInt64.ofNat_add]
  · have failures : (c.counters.inspectionFailuresAt p).toNat ≤
        c.inspectionsAt p .client + c.inspectionsAt p .server := l.inspectionFailuresAt_le moves p
    have up := level p .client (small .client)
    have down := level p .server (small .server)
    omega

end Layout

end

namespace Layout

open Convoy

/-- Lanes that are sent one chunk, to which the inspector objects. The destinations of some are
gone. -/
def pinging {ι : Type} (gone : ι → Bool) : Layout fun _ : ι => Bench where
  devices _ := Bench.devices
  setup _ := ⟨"session", 3001, .client, 4096⟩
  stopped _ := false
  world i :=
    let objects : Inspector :=
      .custom "fn" "" fun _ _ => ⟨.returned (.failed (.message "no")), none, false⟩
    { source := [.data [112, 105, 110, 103]]
      writes := if gone i then [.fault (.system 32)] else []
      flushes := [], shutdownFault := none, station := .start objects ⟨[]⟩ "", delivered := 0 }

theorem chunks_are_inspections_but_cut_off_pinging :
    let l : Layout fun _ : Bool => Bench := pinging id
    let round : List (Convoy.Move fun _ : Bool => Bench) :=
      [.turn false .step, .others (·.recordSession 3001) (Counters.sameTraffic_recordSession 3001),
        .turn true .step]
    let moves := round ++ round ++ round ++ round ++ round
    let c := l.run moves
    (∀ i, (c.runs i).lane.report?.isSome = true) ∧ c.inspectionsAt 3001 .client = 2 ∧
      l.cutOffAt moves 3001 .client = {true} ∧ (c.counters.chunksAt 3001 .client).toNat = 1 := by
  intro l round moves c
  have ended : ∀ i, (c.runs i).lane.report?.isSome = true := by decide +kernel
  have two : c.inspectionsAt 3001 .client = 2 := by decide +kernel
  have clean : (l.lane false (turnsOf false moves)).lane.report? =
      some ⟨.client, 4, 1, 1, .peerClosed⟩ := by decide +kernel
  have broken : (l.lane true (turnsOf true moves)).lane.report? =
      some ⟨.client, 0, 0, 1, .failed (.write 3001 .client (.system 32))⟩ := by decide +kernel
  have cut : l.cutOffAt moves 3001 .client = {true} := by
    ext i
    cases i with
    | true => exact iff_of_true ⟨⟨rfl, rfl⟩, .inl ⟨_, _, _, _, broken, rfl⟩⟩ rfl
    | false =>
        refine iff_of_false ?_ (by simp)
        rintro ⟨_, ⟨report, _, _, _, reported, failed⟩ | stopped⟩
        · cases clean.symm.trans reported
          cases failed
        · have torn := stopped.ending
          have here := (Lane.report?_eq_some clean).1
          rw [lane] at here
          simp [here, Phase.ending?] at torn
  obtain ⟨_, counted, _⟩ := l.chunks_are_inspections_but_cut_off ended
  have small : c.inspectionsAt 3001 .client < 2 ^ 64 := by rw [two]; decide
  have level : _ + _ = c.inspectionsAt 3001 .client := (counted 3001 .client).2 small
  rw [cut, Set.ncard_singleton, two] at level
  exact ⟨ended, two, cut, Nat.succ.inj level⟩

/-- An inspection that failed and no chunk: the write failed after the inspection. -/
theorem failure_without_chunk :
    let c := (pinging fun _ : Unit => true).run (List.replicate 4 (.turn () .step))
    (∀ i, (c.runs i).lane.report?.isSome = true) ∧ c.inspectionsAt 3001 .client = 1 ∧
      c.counters.chunksAt 3001 .client = 0 ∧ c.counters.chunksAt 3001 .server = 0 ∧
      c.counters.inspectionFailuresAt 3001 = 1 := by
  decide +kernel

end Layout

end Wiretap
