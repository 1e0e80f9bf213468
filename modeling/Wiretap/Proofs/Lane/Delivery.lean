import Mathlib.Algebra.BigOperators.Group.List.Basic
import Wiretap.Proofs.Lane.Trace
/-! # What a lane delivers

The books of a lane: what was read, what was shown to inspectors and what the destination accepted
agree in every phase, up to the one chunk that is under way. From them follow what a lane has
delivered when it ends, and that every chunk was inspected once, before any of it was forwarded.
-/

namespace Wiretap

variable {ω : Type}

namespace Lane

/-- What an attempt to get the rest of a chunk out has to show for itself. -/
def Progress.Accounts (rest accepted : Bytes) : Progress → Prop
  | .done => accepted = rest
  | .waiting left => accepted ++ left = rest
  | .failed _ => accepted <+: rest

theorem Delivers.accounts {rest : Bytes} {contacts : Trace} {acts : List Act} {progress : Progress}
    (h : Delivers rest contacts acts progress) : progress.Accounts rest contacts.accepted := by
  induction h with
  | flushWaits | flushed | writeWaits => rfl
  | flushFails | writeFails | acceptsNothing => exact List.nil_prefix
  | @accepts rest contacts acts progress n more ih =>
      have first : Trace.accepted (.write rest (.ready (.ok n)) :: contacts) =
          rest.take n ++ contacts.accepted := rfl
      rw [first]
      cases progress with
      | done =>
          simp only [Progress.Accounts] at ih ⊢
          rw [ih, List.take_append_drop]
      | waiting left =>
          simp only [Progress.Accounts] at ih ⊢
          rw [List.append_assoc, ih, List.take_append_drop]
      | failed fault =>
          simp only [Progress.Accounts] at ih ⊢
          obtain ⟨left, eq⟩ := ih
          exact ⟨left, by rw [List.append_assoc, eq, List.take_append_drop]⟩

theorem Delivers.chunks_eq {rest : Bytes} {contacts : Trace} {acts : List Act} {progress : Progress}
    (h : Delivers rest contacts acts progress) : contacts.chunks = [] := by
  induction h with
  | accepts n more ih => exact ih
  | _ => rfl

theorem Delivers.inspections_eq {rest : Bytes} {contacts : Trace} {acts : List Act}
    {progress : Progress} (h : Delivers rest contacts acts progress) : contacts.inspections = [] := by
  induction h with
  | accepts n more ih => exact ih
  | _ => rfl

/-- Only a delivery that is done has flushed its destination. -/
theorem Delivers.flushes_eq {rest : Bytes} {contacts : Trace} {acts : List Act}
    {progress : Progress} (h : Delivers rest contacts acts progress) :
    contacts.flushes = if progress = .done then 1 else 0 := by
  induction h with
  | accepts n more ih => exact ih
  | _ => rfl

/-! ## Books -/

/-- Nothing is under way: what was read was shown and accepted, chunk by chunk. -/
structure Settled (lane : Lane) (t : Trace) (forwarded : List Bytes) : Prop where
  chunks : t.chunks = forwarded
  shown : t.shown = forwarded.map lane.event
  accepted : t.accepted = forwarded.flatten

/-- One more chunk was read and shown, and a part of it was accepted. -/
structure UnderWay (lane : Lane) (t : Trace) (forwarded : List Bytes) (chunk part : Bytes) :
    Prop where
  chunks : t.chunks = forwarded ++ [chunk]
  shown : t.shown = (forwarded ++ [chunk]).map lane.event
  accepted : t.accepted = forwarded.flatten ++ part

/-- How the trace of a lane compares with the chunks that it has forwarded in full, phase by phase. -/
inductive Balance (lane : Lane) (t : Trace) (forwarded : List Bytes) : Prop where
  | reading (here : lane.phase = .reading) (settled : Settled lane t forwarded)
  /-- A chunk was read and nobody has seen it yet. -/
  | inspecting {chunk : Bytes} (here : lane.phase = .inspecting chunk)
      (chunks : t.chunks = forwarded ++ [chunk]) (shown : t.shown = forwarded.map lane.event)
      (accepted : t.accepted = forwarded.flatten)
  | writing {chunk rest part : Bytes} (here : lane.phase = .writing chunk rest)
      (whole : part ++ rest = chunk) (underWay : UnderWay lane t forwarded chunk part)
  /-- The lane ended between two chunks. -/
  | ended {termination : Termination} (here : lane.phase.ending? = some termination)
      (settled : Settled lane t forwarded)
      (clean : ∀ p d fault, termination ≠ .failed (.write p d fault))
  /-- The lane ended over a chunk. -/
  | cutOff {termination : Termination} {chunk part : Bytes}
      (here : lane.phase.ending? = some termination) (isPart : part <+: chunk)
      (underWay : UnderWay lane t forwarded chunk part)
      (broken : termination = .tornDown ∨ ∃ fault, termination = .failed (lane.writeFault fault))

/-- The books of a lane, which has forwarded some chunks. -/
structure Books (lane : Lane) (t : Trace) (forwarded : List Bytes) : Prop where
  bytes : lane.bytes = UInt64.ofNat forwarded.flatten.length
  chunks : lane.chunks = UInt64.ofNat forwarded.length
  failures : lane.inspectionFailures = UInt64.ofNat t.failures
  balance : Balance lane t forwarded

theorem Balance.of_reading {lane : Lane} {t : Trace} {forwarded : List Bytes}
    (h : Balance lane t forwarded) (here : lane.phase = .reading) : Settled lane t forwarded := by
  cases h with
  | reading _ settled => exact settled
  | inspecting there | writing there | ended there | cutOff there =>
      simp [here, Phase.ending?] at there

theorem Balance.of_inspecting {lane : Lane} {t : Trace} {forwarded : List Bytes} {chunk : Bytes}
    (h : Balance lane t forwarded) (here : lane.phase = .inspecting chunk) :
    t.chunks = forwarded ++ [chunk] ∧ t.shown = forwarded.map lane.event ∧
      t.accepted = forwarded.flatten := by
  cases h with
  | inspecting there chunks shown accepted =>
      rw [here] at there
      cases there
      exact ⟨chunks, shown, accepted⟩
  | reading there | writing there | ended there | cutOff there =>
      simp [here, Phase.ending?] at there

theorem Balance.of_writing {lane : Lane} {t : Trace} {forwarded : List Bytes} {chunk rest : Bytes}
    (h : Balance lane t forwarded) (here : lane.phase = .writing chunk rest) :
    ∃ part, part ++ rest = chunk ∧ UnderWay lane t forwarded chunk part := by
  cases h with
  | writing there whole underWay =>
      rw [here] at there
      cases there
      exact ⟨_, whole, underWay⟩
  | reading there | inspecting there | ended there | cutOff there =>
      simp [here, Phase.ending?] at there

section Extending

variable {lane next : Lane} {t contacts : Trace} {forwarded : List Bytes}

/-- Calls that move nothing leave everything settled. -/
theorem Settled.extend (h : Settled lane t forwarded) (event : next.event = lane.event)
    (chunks : contacts.chunks = []) (shown : contacts.shown = []) (accepted : contacts.accepted = []) :
    Settled next (t ++ contacts) forwarded where
  chunks := by rw [Trace.chunks_append, h.chunks, chunks, List.append_nil]
  shown := by rw [Trace.shown_append, h.shown, shown, List.append_nil, event]
  accepted := by rw [Trace.accepted_append, h.accepted, accepted, List.append_nil]

/-- What the destination accepts further belongs to the chunk under way. -/
theorem UnderWay.extend {chunk part : Bytes} (h : UnderWay lane t forwarded chunk part)
    (event : next.event = lane.event) (chunks : contacts.chunks = []) (shown : contacts.shown = []) :
    UnderWay next (t ++ contacts) forwarded chunk (part ++ contacts.accepted) where
  chunks := by rw [Trace.chunks_append, h.chunks, chunks, List.append_nil]
  shown := by rw [Trace.shown_append, h.shown, shown, List.append_nil, event]
  accepted := by rw [Trace.accepted_append, h.accepted, List.append_assoc]

/-- A chunk that was accepted as a whole is settled. -/
theorem UnderWay.settled {chunk : Bytes} (h : UnderWay lane t forwarded chunk chunk) :
    Settled lane t (forwarded ++ [chunk]) where
  chunks := h.chunks
  shown := h.shown
  accepted := by rw [h.accepted, List.flatten_append, List.flatten_singleton]

/-- An ended lane stays as it is. -/
theorem Balance.extend {termination : Termination} (h : Balance lane t forwarded)
    (here : lane.phase.ending? = some termination) (there : next.phase.ending? = some termination)
    (setup : next.setup = lane.setup) (chunks : contacts.chunks = []) (shown : contacts.shown = [])
    (accepted : contacts.accepted = []) : Balance next (t ++ contacts) forwarded := by
  have event : next.event = lane.event := by
    funext chunk
    simp only [event, setup]
  cases h with
  | reading at_ | inspecting at_ | writing at_ => simp [at_, Phase.ending?] at here
  | ended at_ settled clean =>
      obtain rfl := Option.some.inj (at_.symm.trans here)
      exact .ended there (settled.extend event chunks shown accepted) clean
  | cutOff at_ isPart underWay broken =>
      obtain rfl := Option.some.inj (at_.symm.trans here)
      have stays := underWay.extend event chunks shown
      rw [accepted, List.append_nil] at stays
      exact .cutOff there isPart stays (by simpa only [writeFault, setup] using broken)

end Extending

theorem Moves.failures_eq {lane : Lane} {stopped : Bool} {contacts : Trace} {s : Step ω}
    (h : Moves lane stopped contacts s) :
    s.lane.inspectionFailures = lane.inspectionFailures + UInt64.ofNat contacts.failures := by
  cases h with
  | inspects here stopped verdict fires w =>
      cases verdict with
      | accepted => rfl
      | failed fault => rfl
  | writeWaits here delivers | writeFails here delivers | forwards here delivers =>
      simp [Trace.failures, delivers.inspections_eq, finish, countForwarded]
  | _ => exact (UInt64.add_zero _).symm

theorem Delivers.shown_eq {rest : Bytes} {contacts : Trace} {acts : List Act} {progress : Progress}
    (h : Delivers rest contacts acts progress) : contacts.shown = [] := by
  rw [Trace.shown, h.inspections_eq, List.map_nil]

/-- A step keeps the balance; the chunks that it forwards in full are those that it counts, and the
destination is flushed for each. -/
theorem Balance.moves {lane : Lane} {t contacts : Trace} {forwarded : List Bytes} {stopped : Bool}
    {s : Step ω} (balance : Balance lane t forwarded) (moves : Moves lane stopped contacts s) :
    ∃ more, Balance s.lane (t ++ contacts) (forwarded ++ more) ∧
      s.lane.bytes = lane.bytes + UInt64.ofNat more.flatten.length ∧
      s.lane.chunks = lane.chunks + UInt64.ofNat more.length ∧ more.length = contacts.flushes := by
  -- All steps but one forward nothing in full.
  have still (kept : Balance s.lane (t ++ contacts) forwarded) (bytes : s.lane.bytes = lane.bytes)
      (chunks : s.lane.chunks = lane.chunks) (flushes : contacts.flushes = 0) :
      ∃ more, Balance s.lane (t ++ contacts) (forwarded ++ more) ∧
        s.lane.bytes = lane.bytes + UInt64.ofNat more.flatten.length ∧
        s.lane.chunks = lane.chunks + UInt64.ofNat more.length ∧ more.length = contacts.flushes :=
    ⟨[], by rwa [List.append_nil], by rw [bytes]; exact (UInt64.add_zero _).symm,
      by rw [chunks]; exact (UInt64.add_zero _).symm, flushes.symm⟩
  cases moves with
  | stopsReading here w =>
      exact still (.ended rfl ((balance.of_reading here).extend rfl rfl rfl rfl) (by simp)) rfl rfl rfl
  | readWaits here fires w =>
      exact still (.reading here ((balance.of_reading here).extend rfl rfl rfl rfl)) rfl rfl rfl
  | readFails here fault w =>
      exact still (.ended rfl ((balance.of_reading here).extend rfl rfl rfl rfl)
        (by simp [readFault])) rfl rfl rfl
  | sourceEnds here w =>
      exact still (.ended rfl ((balance.of_reading here).extend rfl rfl rfl rfl) (by simp)) rfl rfl rfl
  | reads here octet more fires w =>
      have settled := balance.of_reading here
      refine still (.inspecting rfl ?_ ?_ ?_) rfl rfl rfl
      · rw [Trace.chunks_append, settled.chunks]
        rfl
      · rw [Trace.shown_append, settled.shown]
        exact List.append_nil _
      · rw [Trace.accepted_append, settled.accepted]
        exact List.append_nil _
  | inspects here stopped verdict fires w =>
      obtain ⟨chunks, shown, accepted⟩ := balance.of_inspecting here
      refine still (.writing rfl (List.nil_append _) ⟨?_, ?_, ?_⟩) rfl rfl rfl
      · rw [Trace.chunks_append, chunks]
        exact List.append_nil _
      · rw [Trace.shown_append, shown, List.map_append]
        rfl
      · rw [Trace.accepted_append, accepted]
        rfl
  | stopsWriting here w =>
      obtain ⟨part, whole, underWay⟩ := balance.of_writing here
      rw [List.append_nil] at still ⊢
      exact still (.cutOff rfl ⟨_, whole⟩ ⟨underWay.chunks, underWay.shown, underWay.accepted⟩
        (.inl rfl)) rfl rfl rfl
  | writeWaits here delivers fires w =>
      obtain ⟨part, whole, underWay⟩ := balance.of_writing here
      have accounts : contacts.accepted ++ _ = _ := delivers.accounts
      refine still (.writing rfl ?_
        (underWay.extend rfl delivers.chunks_eq delivers.shown_eq)) rfl rfl delivers.flushes_eq
      rw [List.append_assoc, accounts, whole]
  | writeFails here delivers w =>
      obtain ⟨part, whole, underWay⟩ := balance.of_writing here
      have accounts : contacts.accepted <+: _ := delivers.accounts
      refine still (.cutOff rfl ?_ (underWay.extend rfl delivers.chunks_eq delivers.shown_eq)
        (.inr ⟨_, rfl⟩)) rfl rfl delivers.flushes_eq
      rw [← whole]
      exact (List.prefix_append_right_inj part).mpr accounts
  | @forwards chunk rest contacts acts here delivers fires w =>
      obtain ⟨part, whole, underWay⟩ := balance.of_writing here
      have accounts : contacts.accepted = rest := delivers.accounts
      have done : UnderWay (lane.countForwarded chunk) (t ++ contacts) forwarded chunk _ :=
        underWay.extend rfl delivers.chunks_eq delivers.shown_eq
      rw [accounts, whole] at done
      refine ⟨[chunk], .reading rfl done.settled, ?_, rfl, delivers.flushes_eq.symm⟩
      rw [List.flatten_singleton]
      rfl
  | shutdownWaits here stopped fires w =>
      exact still (balance.extend (congrArg _ here) (congrArg _ here) rfl rfl rfl rfl) rfl rfl rfl
  | shutsDown here stopped fires result w =>
      exact still (balance.extend (congrArg _ here) rfl rfl rfl rfl rfl) rfl rfl rfl
  | rests here stopped w =>
      exact still (balance.extend (congrArg _ here) (congrArg _ here) rfl rfl rfl rfl) rfl rfl rfl

theorem Books.moves {lane : Lane} {t contacts : Trace} {forwarded : List Bytes} {stopped : Bool}
    {s : Step ω} (h : Books lane t forwarded) (moves : Moves lane stopped contacts s) :
    ∃ more, Books s.lane (t ++ contacts) (forwarded ++ more) ∧ more.length = contacts.flushes := by
  obtain ⟨more, balance, bytes, chunks, flushes⟩ := h.balance.moves moves
  refine ⟨more, ⟨?_, ?_, ?_, balance⟩, flushes⟩
  · rw [bytes, h.bytes, List.flatten_append, List.length_append, UInt64.ofNat_add]
  · rw [chunks, h.chunks, List.length_append, UInt64.ofNat_add]
  · rw [moves.failures_eq, h.failures, Trace.failures_append, UInt64.ofNat_add]

theorem Balance.forwarded_prefix {lane : Lane} {t : Trace} {forwarded : List Bytes}
    (h : Balance lane t forwarded) : forwarded <+: t.chunks := by
  cases h with
  | reading _ settled | ended _ settled => exact ⟨[], by rw [settled.chunks, List.append_nil]⟩
  | inspecting _ chunks => exact ⟨_, chunks.symm⟩
  | writing _ _ underWay | cutOff _ _ underWay => exact ⟨_, underWay.chunks.symm⟩

/-- The figures of a lane are those of the chunks that its destination was flushed after. -/
structure Counts (lane : Lane) (t : Trace) : Prop where
  books : Books lane t t.forwarded
  flushes : t.forwarded.length = t.flushes

theorem counts_start (setup : LaneSetup) : Counts (start setup) [] where
  books := ⟨rfl, rfl, rfl, .reading rfl ⟨rfl, rfl, rfl⟩⟩
  flushes := rfl

theorem Counts.moves {lane : Lane} {t contacts : Trace} {stopped : Bool} {s : Step ω}
    (h : Counts lane t) (moves : Moves lane stopped contacts s) : Counts s.lane (t ++ contacts) := by
  obtain ⟨more, books, flushes⟩ := h.books.moves moves
  have length : (t.forwarded ++ more).length = (t ++ contacts).flushes := by
    rw [List.length_append, h.flushes, flushes, Trace.flushes_append]
  have forwarded : (t ++ contacts).forwarded = t.forwarded ++ more := by
    rw [Trace.forwarded, ← length]
    exact (List.prefix_iff_eq_take.mp books.balance.forwarded_prefix).symm
  exact ⟨forwarded ▸ books, forwarded ▸ length⟩

theorem report?_eq_some {lane : Lane} {report : LaneReport} (h : lane.report? = some report) :
    lane.phase = .finished report.termination ∧
      report = ⟨lane.setup.direction, lane.bytes, lane.chunks, lane.inspectionFailures,
        report.termination⟩ := by
  simp only [report?, termination?] at h
  cases here : lane.phase with
  | finished termination =>
      rw [here] at h
      cases h
      exact ⟨rfl, rfl⟩
  | _ => simp [here] at h

/-- The books of an ended lane: a chunk may be left over, of which a part was accepted. -/
theorem Books.of_ending {lane : Lane} {t : Trace} {forwarded : List Bytes} {termination : Termination}
    (h : Books lane t forwarded) (here : lane.phase.ending? = some termination) :
    (Settled lane t forwarded ∧ ∀ p d fault, termination ≠ .failed (.write p d fault)) ∨
      ∃ chunk part, part <+: chunk ∧ UnderWay lane t forwarded chunk part ∧
        (termination = .tornDown ∨ ∃ fault, termination = .failed (lane.writeFault fault)) := by
  cases h.balance with
  | reading at_ | inspecting at_ | writing at_ => simp [at_, Phase.ending?] at here
  | ended at_ settled clean =>
      obtain rfl := Option.some.inj (at_.symm.trans here)
      exact .inl ⟨settled, clean⟩
  | cutOff at_ isPart underWay broken =>
      obtain rfl := Option.some.inj (at_.symm.trans here)
      exact .inr ⟨_, _, isPart, underWay, broken⟩

/-- What is left over of what was read when a lane has ended, and the part of it that was accepted. -/
theorem Books.left_over {lane : Lane} {t : Trace} {forwarded : List Bytes} {termination : Termination}
    (h : Books lane t forwarded) (here : lane.phase.ending? = some termination) :
    ∃ rest part, t.chunks = forwarded ++ rest ∧ rest.length ≤ 1 ∧ part <+: rest.flatten ∧
      t.accepted = forwarded.flatten ++ part ∧
      ((termination = .peerClosed ∨ ∃ p d fault, termination = .failed (.read p d fault)) →
        rest = []) := by
  rcases h.of_ending here with ⟨settled, _⟩ | ⟨chunk, part, isPart, underWay, broken⟩
  · refine ⟨[], [], ?_, Nat.zero_le 1, List.nil_prefix, ?_, fun _ => rfl⟩
    · rw [settled.chunks, List.append_nil]
    · rw [settled.accepted, List.append_nil]
  · refine ⟨[chunk], part, underWay.chunks, Nat.le_refl 1, ?_, underWay.accepted, ?_⟩
    · rwa [List.flatten_singleton]
    · rintro (rfl | ⟨p, d, fault, rfl⟩)
      · simp at broken
      · simp [writeFault] at broken

theorem UnderWay.accepted_prefix {lane : Lane} {t : Trace} {forwarded : List Bytes} {chunk part : Bytes}
    (h : UnderWay lane t forwarded chunk part) (isPart : part <+: chunk) :
    t.accepted <+: t.chunks.flatten := by
  rw [h.accepted, h.chunks, List.flatten_append, List.flatten_singleton]
  exact (List.prefix_append_right_inj _).mpr isPart

/-- The destination accepted nothing but what was read, in order. -/
theorem Books.accepted_prefix {lane : Lane} {t : Trace} {forwarded : List Bytes}
    (h : Books lane t forwarded) : t.accepted <+: t.chunks.flatten := by
  cases h.balance with
  | reading here settled | ended here settled =>
      simp only [settled.accepted, settled.chunks, List.prefix_rfl]
  | inspecting here chunks shown accepted =>
      rw [accepted, chunks, List.flatten_append]
      exact List.prefix_append ..
  | writing here whole underWay => exact underWay.accepted_prefix ⟨_, whole⟩
  | cutOff here isPart underWay => exact underWay.accepted_prefix isPart

theorem Books.accepted_eq_of_peerClosed {lane : Lane} {t : Trace} {forwarded : List Bytes}
    (h : Books lane t forwarded) (here : lane.phase.ending? = some .peerClosed) :
    t.accepted = t.chunks.flatten := by
  obtain ⟨rest, part, chunks, _, isPart, accepted, whole⟩ := h.left_over here
  obtain rfl := whole (.inl rfl)
  obtain rfl := List.prefix_nil.mp isPart
  rw [accepted, chunks, List.append_nil, List.append_nil]

end Lane

/-- A report tells what a trace shows: the chunks that it counts are the first ones that were read,
and all of them but perhaps the last; the destination accepted them and at most a part of the last. -/
def LaneReport.AccountsFor (report : LaneReport) (t : Trace) : Prop :=
  ∃ forwarded rest part, t.chunks = forwarded ++ rest ∧ rest.length ≤ 1 ∧ part <+: rest.flatten ∧
    t.accepted = forwarded.flatten ++ part ∧ report.chunks = UInt64.ofNat forwarded.length ∧
    report.bytes = UInt64.ofNat forwarded.flatten.length ∧
    report.inspectionFailures = UInt64.ofNat t.failures

theorem Lane.Books.accountsFor {lane : Lane} {t : Trace} {forwarded : List Bytes}
    {report : LaneReport} (h : Books lane t forwarded) (ended : lane.report? = some report) :
    report.AccountsFor t := by
  obtain ⟨phase, eq⟩ := report?_eq_some ended
  have here : lane.phase.ending? = some report.termination := by
    rw [phase]
    rfl
  obtain ⟨rest, part, chunks, short, isPart, accepted, _⟩ := h.left_over here
  refine ⟨forwarded, rest, part, chunks, short, isPart, accepted, ?_, ?_, ?_⟩
  · rw [eq]
    exact h.chunks
  · rw [eq]
    exact h.bytes
  · rw [eq]
    exact h.failures

theorem Contact.chunk?_ne_nil {c : Contact} {chunk : Bytes} (h : c.chunk? = some chunk) :
    chunk ≠ [] := by
  unfold Contact.chunk? at h
  split at h
  · cases h
    exact List.cons_ne_nil _ _
  · cases h

/-- No chunk is empty, so there are no more chunks than octets. -/
theorem Trace.length_chunks_le (t : Trace) : t.chunks.length ≤ t.chunks.flatten.length := by
  have some : ∀ chunk ∈ t.chunks, 1 ≤ chunk.length := by
    intro chunk member
    obtain ⟨c, _, eq⟩ := List.mem_filterMap.mp member
    exact List.length_pos_iff.mpr (c.chunk?_ne_nil eq)
  rw [List.length_flatten]
  simpa using List.length_le_sum_of_one_le (t.chunks.map List.length) (by simpa using some)

namespace LaneRun

variable (d : Devices ω) (setup : LaneSetup) (stopped : Bool) (world : ω)

/-- The books are kept through every run. -/
theorem traced_counts (turns : List (Turn ω)) :
    let r := traced d setup stopped world turns
    r.lane.Counts r.world.trace := by
  refine traced_invariant (P := fun r => r.lane.Counts r.world.trace) (Lane.counts_start setup) ?_
    (fun _ _ _ h => h) turns
  intro r counts
  obtain ⟨contacts, s, moves, eq⟩ := advance_moves d r
  rw [eq]
  exact counts.moves moves

theorem traced_books (turns : List (Turn ω)) :
    ∃ forwarded, Lane.Books (traced d setup stopped world turns).lane
      (traced d setup stopped world turns).world.trace forwarded :=
  ⟨_, (traced_counts d setup stopped world turns).books⟩

variable {d setup stopped world}

/-- A lane reports how many inspections failed. -/
theorem inspectionFailures_of_report (turns : List (Turn ω)) {report : LaneReport}
    (ended : (traced d setup stopped world turns).lane.report? = some report) :
    report.inspectionFailures =
      UInt64.ofNat (traced d setup stopped world turns).world.trace.failures := by
  obtain ⟨forwarded, books⟩ := traced_books d setup stopped world turns
  rw [(Lane.report?_eq_some ended).2]
  exact books.failures

/-- What a lane has delivered when it ends: the chunks that it reports, in order and unchanged, and
at most a part of one chunk more. Nothing is left over when the source ended or a read failed. -/
theorem accepted_eq_of_report (turns : List (Turn ω)) {report : LaneReport}
    (ended : (traced d setup stopped world turns).lane.report? = some report) :
    let t := (traced d setup stopped world turns).world.trace
    ∃ k, (t.chunks.length = k ∨ t.chunks.length = k + 1) ∧
      report.chunks = UInt64.ofNat k ∧
      report.bytes = UInt64.ofNat (t.chunks.take k).flatten.length ∧
      (t.chunks.flatten.length < 2 ^ 64 →
        report.chunks.toNat = k ∧ report.bytes.toNat = (t.chunks.take k).flatten.length) ∧
      (∃ part, part <+: (t.chunks.drop k).flatten ∧
        t.accepted = (t.chunks.take k).flatten ++ part) ∧
      ((report.termination = .peerClosed ∨
          ∃ p d fault, report.termination = .failed (.read p d fault)) →
        t.chunks.length = k ∧ t.accepted = t.chunks.flatten) := by
  intro t
  obtain ⟨forwarded, books⟩ := traced_books d setup stopped world turns
  obtain ⟨phase, eq⟩ := Lane.report?_eq_some ended
  have counted : report.chunks = UInt64.ofNat forwarded.length := by
    rw [eq]
    exact books.chunks
  have measured : report.bytes = UInt64.ofNat forwarded.flatten.length := by
    rw [eq]
    exact books.bytes
  have here : (traced d setup stopped world turns).lane.phase.ending? = some report.termination := by
    rw [phase]
    rfl
  obtain ⟨rest, part, chunks, short, isPart, accepted, whole⟩ := books.left_over here
  change t.chunks = forwarded ++ rest at chunks
  have taken : t.chunks.take forwarded.length = forwarded := by rw [chunks, List.take_left]
  have dropped : t.chunks.drop forwarded.length = rest := by rw [chunks, List.drop_left]
  refine ⟨forwarded.length, ?_, counted, ?_, ?_, ⟨part, ?_, ?_⟩, ?_⟩
  · rw [chunks, List.length_append]
    omega
  · rw [taken, measured]
  · intro small
    have fewer := t.length_chunks_le
    rw [taken, counted, measured]
    rw [chunks, List.flatten_append, List.length_append] at small
    rw [chunks, List.flatten_append, List.length_append, List.length_append] at fewer
    have size : UInt64.size = 2 ^ 64 := rfl
    exact ⟨UInt64.toNat_ofNat_of_lt' (by omega), UInt64.toNat_ofNat_of_lt' (by omega)⟩
  · rwa [dropped]
  · rwa [taken]
  · intro clean
    obtain rfl := whole clean
    obtain rfl := List.prefix_nil.mp isPart
    rw [List.append_nil] at chunks accepted
    exact ⟨by rw [chunks], by rw [chunks]; exact accepted⟩

/-- The destination takes the first chunk and one octet of the second, then the lane is stopped. -/
theorem accepted_eq_of_report_cut_off :
    let bench : Bench :=
      ⟨[.data [1, 2], .data [3, 4, 5]], [.accept none false, .accept (some 1) false, .pause], [], none,
        .start .noop ⟨[]⟩ "", 0⟩
    let turns : List (Turn Bench) := List.replicate 6 .step ++ [.meanwhile true id, .step, .step]
    let r := traced Bench.devices ⟨"s", 1, .client, 4⟩ false bench turns
    r.lane.report? = some ⟨.client, 2, 1, 0, .tornDown⟩ ∧
      ∃ part, part <+: [3, 4, 5] ∧ r.world.trace.accepted = [1, 2] ++ part := by
  intro bench turns r
  have ended : r.lane.report? = some ⟨.client, 2, 1, 0, .tornDown⟩ := by decide +kernel
  have chunks : r.world.trace.chunks = [[1, 2], [3, 4, 5]] := by decide +kernel
  obtain ⟨k, _, _, _, exact_, ⟨part, isPart, accepted⟩, _⟩ := accepted_eq_of_report turns ended
  change r.world.trace.chunks.flatten.length < _ → _ at exact_
  change part <+: (r.world.trace.chunks.drop k).flatten at isPart
  change r.world.trace.accepted = (r.world.trace.chunks.take k).flatten ++ part at accepted
  rw [chunks] at exact_ isPart accepted
  obtain ⟨rfl, _⟩ := exact_ (by decide)
  exact ⟨ended, part, isPart, accepted⟩

end LaneRun

end Wiretap
