import Wiretap.Proofs.Lane.Effects
import Wiretap.Proofs.Lane.Inspection
import Wiretap.Proofs.Settings.Validity
import Wiretap.Proofs.Supervise.Steps
/-! # The buffer of a lane

A lane reads all its chunks through one buffer, which is cleared before every read. The buffer takes what
it has room for, and more room is made only in a buffer that is full. A cleared buffer is full only if it
has no capacity at all, which valid settings exclude: so the room never changes, and nothing of an earlier
chunk is left.
-/

namespace Wiretap

variable {ω : Type}

/-! ## Buffers -/

/-- A buffer that is used for one chunk after the other. -/
structure Buffer where
  content : Bytes
  capacity : Nat
  deriving Repr, DecidableEq

namespace Buffer

def ofCapacity (capacity : Nat) : Buffer := ⟨[], capacity⟩

def clear (b : Buffer) : Buffer := { b with content := [] }

/-- Make some more room in a buffer that is full. -/
def makeRoom (more : Nat) (b : Buffer) : Buffer :=
  if b.content.length = b.capacity then { b with capacity := b.capacity + more } else b

def room (b : Buffer) : Nat := b.capacity - b.content.length

def append (b : Buffer) (bytes : Bytes) : Buffer := { b with content := b.content ++ bytes }

/-- A buffer that is about to be read into. -/
def prepare (more : Nat) (b : Buffer) : Buffer := b.clear.makeRoom more

theorem prepare_eq {b : Buffer} (some_ : 0 < b.capacity) (more : Nat) :
    b.prepare more = ⟨[], b.capacity⟩ :=
  if_neg (Nat.ne_of_lt some_)

end Buffer

/-- A state of devices together with the buffer that is read into. -/
structure Buffered (ω : Type) where
  world : ω
  buffer : Buffer

/-- The same devices, read through a buffer. Not the lane but the room of the buffer says how much is
asked for, and the chunk is what is in the front of the buffer. -/
def Devices.buffered (d : Devices ω) (more : Nat) : Devices (Buffered ω) where
  read _ w :=
    let b := w.buffer.prepare more
    let r := d.read b.room w.world
    match r.value with
    | .ready (.ok bytes) =>
      let b := b.append bytes
      ⟨.ready (.ok (b.content.take bytes.length)), r.stops, r.world, b⟩
    | value => ⟨value, r.stops, r.world, b⟩
  write bytes w := (d.write bytes w.world).map (⟨·, w.buffer⟩)
  flush w := (d.flush w.world).map (⟨·, w.buffer⟩)
  shutdown w := (d.shutdown w.world).map (⟨·, w.buffer⟩)
  inspect event w := (d.inspect event w.world).map (⟨·, w.buffer⟩)

def Devices.Limited (d : Devices ω) : Prop :=
  ∀ limit w bytes, (d.read limit w).value = .ready (.ok bytes) → bytes.length ≤ limit

theorem Scene.limited_devices (source destination : Socket) :
    (Scene.devices source destination).Limited := by
  intro limit scene bytes value
  simp only [Scene.devices, Network.receive] at value
  split at value
  · cases value
  · split at value <;> cases value
    · exact List.length_take_le ..
    · exact Nat.zero_le _

theorem Bench.limited_devices : Bench.devices.Limited := by
  intro limit bench bytes value
  have all (station : Station) (stops : Bool) (source : List SourceItem) :
      (Bench.intake limit station stops source).value = .ready (.ok bytes) → bytes.length ≤ limit := by
    fun_induction Bench.intake limit station stops source with
    | case2 => rintro ⟨⟩; exact List.length_take_le ..
    | case4 _ _ _ _ ih | case5 _ _ _ ih => exact ih
    | case1 | case8 => rintro ⟨⟩; exact Nat.zero_le _
    | case3 | case6 | case7 => nofun
  exact all bench.station false bench.source value

def Phase.chunk? : Phase → Option Bytes
  | .inspecting chunk | .writing chunk _ => some chunk
  | _ => none

namespace Lane

variable {d : Devices ω} {lane : Lane} {w : Buffered ω} {more : Nat}

/-- A buffer as a lane leaves it: its capacity is what it was made with, and it holds the chunk that the
lane works on, and nothing else. -/
structure Holds (lane : Lane) (b : Buffer) : Prop where
  capacity : b.capacity = lane.setup.bufferSize
  fits : b.content.length ≤ b.capacity
  chunk : ∀ chunk, lane.phase.chunk? = some chunk → b.content = chunk

/-- Between chunks it does not matter what the buffer holds. -/
theorem Holds.of_idle {b : Buffer} (capacity : b.capacity = lane.setup.bufferSize)
    (fits : b.content.length ≤ b.capacity) (idle : lane.phase.chunk? = none) : lane.Holds b :=
  ⟨capacity, fits, fun chunk here => absurd (idle.symm.trans here) (Option.some_ne_none chunk).symm⟩

theorem capacity_of_pos (some_ : 0 < lane.setup.bufferSize) :
    lane.capacity = lane.setup.bufferSize :=
  if_neg (Nat.ne_of_gt some_)

/-- What a step leaves behind when the buffer is forgotten. -/
def Step.unbuffered (s : Step (Buffered ω)) : Step ω := { s with world := s.world.world }

theorem buffer_deliver (rest : Bytes) (w : Buffered ω) :
    (deliver (d.buffered more) rest w).world.buffer = w.buffer := by
  fun_induction deliver (d.buffered more) rest w with
  | case1 w =>
      simp only [flush]
      split <;> rfl
  | case2 | case3 | case4 => rfl
  | case5 rest w nonempty r n accepts positive more ih => exact ih

variable (more) in
/-- A step over a buffer that holds what it should is a step without one, and the buffer goes on to hold
what it should. -/
theorem step_buffered (limited : d.Limited) (some_ : 0 < lane.setup.bufferSize)
    (holds : lane.Holds w.buffer) (stopped : Bool) :
    let s := lane.step (d.buffered more) stopped w
    s.unbuffered = lane.step d stopped w.world ∧ s.lane.Holds s.world.buffer := by
  intro s
  have prepared : w.buffer.prepare more = ⟨[], lane.setup.bufferSize⟩ := by
    rw [Buffer.prepare_eq (holds.capacity ▸ some_), holds.capacity]
  simp only [s, step]
  cases here : lane.phase with
  | reading =>
      cases stopped with
      | true => exact ⟨rfl, .of_idle holds.capacity holds.fits rfl⟩
      | false =>
          simp only [Devices.buffered, prepared, Buffer.room, List.length_nil, Nat.sub_zero,
            capacity_of_pos some_, Bool.false_eq_true, if_false]
          cases value : (d.read lane.setup.bufferSize w.world).value with
          | pending => exact ⟨rfl, .of_idle rfl (Nat.zero_le _) (by rw [here]; rfl)⟩
          | ready result =>
              cases result with
              | error fault => exact ⟨rfl, .of_idle rfl (Nat.zero_le _) rfl⟩
              | ok bytes =>
                  have fits := limited _ _ _ value
                  simp only [Buffer.append, List.nil_append, List.take_length]
                  cases bytes with
                  | nil => exact ⟨rfl, .of_idle rfl (Nat.zero_le _) rfl⟩
                  | cons octet octets =>
                      exact ⟨rfl, rfl, fits, fun _ chunk => Option.some.inj chunk⟩
  | inspecting chunk =>
      have content := holds.chunk chunk (by rw [here]; rfl)
      exact ⟨rfl, holds.capacity, holds.fits, fun _ same => content.trans (Option.some.inj same)⟩
  | writing chunk rest =>
      have content := holds.chunk chunk (by rw [here]; rfl)
      cases stopped with
      | true => exact ⟨rfl, .of_idle holds.capacity holds.fits rfl⟩
      | false =>
          have delivered : (deliver (d.buffered more) rest w).map Buffered.world =
              deliver d rest w.world :=
            deliver_map (f := Buffered.world) (fun _ _ => rfl) (fun _ => rfl) rest w
          have buffer : (deliver (d.buffered more) rest w).world.buffer = w.buffer :=
            buffer_deliver rest w
          simp only [← delivered, Delivery.map, Bool.false_eq_true, if_false]
          split
          · exact ⟨rfl, buffer ▸ holds.capacity, buffer ▸ holds.fits,
              fun _ same => (buffer ▸ content).trans (Option.some.inj same)⟩
          · exact ⟨rfl, .of_idle (buffer ▸ holds.capacity) (buffer ▸ holds.fits) rfl⟩
          · exact ⟨rfl, .of_idle (buffer ▸ holds.capacity) (buffer ▸ holds.fits) rfl⟩
  | closing termination =>
      simp only [Devices.buffered, Reply.map]
      split
      · exact ⟨rfl, .of_idle holds.capacity holds.fits (by rw [here]; rfl)⟩
      · exact ⟨rfl, .of_idle holds.capacity holds.fits rfl⟩
  | finished termination => exact ⟨rfl, .of_idle holds.capacity holds.fits (by rw [here]; rfl)⟩

end Lane

/-! ## What is asked for, given and offered -/

def Contact.octets : Contact → Bytes
  | .read _ (.ready (.ok bytes)) => bytes
  | _ => []

namespace Trace

def octets (t : Trace) : Bytes := t.flatMap Contact.octets

theorem flatten_chunks (t : Trace) : t.chunks.flatten = t.octets := by
  induction t with
  | nil => rfl
  | cons c t ih =>
      have first : c.chunk?.toList.flatten = c.octets := by
        unfold Contact.chunk? Contact.octets
        split
        · exact List.append_nil _
        next other =>
          split
          next bytes => cases bytes with
            | nil => rfl
            | cons octet more => exact (other _ octet more rfl).elim
          next => rfl
      rw [octets, List.flatMap_cons, ← first, chunks, List.filterMap_cons]
      cases c.chunk? with
      | none => exact ih
      | some chunk => exact congrArg (chunk ++ ·) ih |>.trans (by simp [octets])

theorem exists_read_of_mem_chunks {t : Trace} {chunk : Bytes} (member : chunk ∈ t.chunks) :
    chunk ≠ [] ∧ ∃ limit, .read limit (.ready (.ok chunk)) ∈ t := by
  obtain ⟨c, there, gave⟩ := List.mem_filterMap.mp member
  refine ⟨c.chunk?_ne_nil gave, ?_⟩
  unfold Contact.chunk? at gave
  split at gave
  · cases gave
    exact ⟨_, there⟩
  · cases gave

end Trace

namespace Lane

variable {lane : Lane} {stopped : Bool} {contacts : Trace} {s : Step ω}

theorem Delivers.not_read {rest : Bytes} {acts : List Act} {progress : Progress}
    (h : Delivers rest contacts acts progress) (limit : Nat) (answer : Poll (Except IoFault Bytes)) :
    .read limit answer ∉ contacts := by
  induction h with
  | accepts n more ih => simpa using ih
  | _ => simp

/-- A lane asks for as much as it has room for. -/
theorem Moves.asks (h : Moves lane stopped contacts s) {limit : Nat}
    {answer : Poll (Except IoFault Bytes)} (asked : .read limit answer ∈ contacts) :
    limit = lane.capacity := by
  cases h with
  | readWaits | readFails | sourceEnds | reads => simp_all
  | writeWaits _ delivers | writeFails _ delivers | forwards _ delivers =>
      exact (delivers.not_read limit answer asked).elim
  | _ => simp at asked

/-- What a delivery offers is always something, and the rest of what is left. -/
theorem deliver_offers (d : Devices ω) (rest : Bytes) (w : Traced ω) :
    ∃ contacts, (deliver d.traced rest w).world.trace = w.trace ++ contacts ∧
      ∀ offer answer, .write offer answer ∈ contacts → offer ≠ [] ∧ offer <:+ rest := by
  fun_induction deliver d.traced rest w with
  | case1 w =>
      refine ⟨[.flush (d.flush w.world).value], ?_, by simp⟩
      simp only [flush, Devices.traced, Reply.traced]
      split <;> rfl
  | case2 rest w nonempty r | case3 rest w nonempty r | case4 rest w nonempty r =>
      refine ⟨[.write rest (d.write rest w.world).value], rfl, ?_⟩
      intro offer answer member
      obtain ⟨rfl, _⟩ : offer = rest ∧ _ := by simpa using member
      exact ⟨nonempty, List.suffix_rfl⟩
  | case5 rest w nonempty r n accepts positive more ih =>
      obtain ⟨contacts, trace, offers⟩ := ih
      refine ⟨.write rest (d.write rest w.world).value :: contacts, ?_, ?_⟩
      · rw [trace]
        simp only [r, Devices.traced, Reply.traced, List.append_assoc, List.singleton_append]
      · intro offer answer member
        rcases List.mem_cons.mp member with first | later
        · obtain ⟨rfl, _⟩ : offer = rest ∧ _ := by simpa using first
          exact ⟨nonempty, List.suffix_rfl⟩
        · obtain ⟨some_, behind⟩ := offers offer answer later
          exact ⟨some_, behind.trans (List.drop_suffix n rest)⟩

theorem Moves.isWriting_of_offer (h : Moves lane stopped contacts s) {offer : Bytes}
    {answer : Poll (Except IoFault Nat)} (offered : .write offer answer ∈ contacts) :
    ∃ chunk rest, lane.phase = .writing chunk rest := by
  cases h with
  | writeWaits here | writeFails here | forwards here => exact ⟨_, _, here⟩
  | _ => simp at offered

theorem step_offers (d : Devices ω) (lane : Lane) (stopped : Bool) (w : Traced ω) :
    ∃ contacts, (lane.step d.traced stopped w).world.trace = w.trace ++ contacts ∧
      ∀ offer answer, .write offer answer ∈ contacts →
        offer ≠ [] ∧ ∃ chunk rest, lane.phase = .writing chunk rest ∧ offer <:+ rest := by
  by_cases here : ∃ chunk rest, lane.phase = .writing chunk rest
  · obtain ⟨chunk, rest, here⟩ := here
    obtain ⟨contacts, trace, offers⟩ := deliver_offers d rest w
    simp only [step, here]
    cases stopped with
    | true => exact ⟨[], (List.append_nil _).symm, by simp⟩
    | false =>
        refine ⟨contacts, ?_, fun offer answer member => ?_⟩
        · rw [← trace, if_neg Bool.false_ne_true]
          split <;> rfl
        · obtain ⟨some_, behind⟩ := offers offer answer member
          exact ⟨some_, chunk, rest, rfl, behind⟩
  · obtain ⟨contacts, trace, moves⟩ := step_moves d lane stopped w
    exact ⟨contacts, trace, fun _ _ member => (here (moves.isWriting_of_offer member)).elim⟩

end Lane

/-- Every read asks for so many octets and gives no more, and every write offers the rest of a chunk that
was shown to an inspector. -/
structure Trace.Bounded (size : Nat) (t : Trace) : Prop where
  asks : ∀ limit answer, .read limit answer ∈ t → limit = size
  gives : ∀ limit bytes, .read limit (.ready (.ok bytes)) ∈ t → bytes.length ≤ size
  offers : ∀ offer answer, .write offer answer ∈ t → offer ≠ [] ∧ ∃ e ∈ t.shown, offer <:+ e.chunk

/-- A turn while the buffer stays as it is. -/
def Turn.buffered : Turn ω → Turn (Buffered ω)
  | .step => .step
  | .meanwhile fires change => .meanwhile fires fun w => { w with world := change w.world }

namespace LaneRun

variable {d : Devices ω} {setup : LaneSetup} {stopped : Bool} {world : ω} {more : Nat}

theorem traced_gives (limited : d.Limited) (turns : List (Turn ω)) {limit : Nat} {bytes : Bytes}
    (gave : .read limit (.ready (.ok bytes)) ∈ (traced d setup stopped world turns).world.trace) :
    bytes.length ≤ limit := by
  let Gives (w : Traced ω) : Prop := ∀ limit bytes,
    Contact.read limit (.ready (.ok bytes)) ∈ w.trace → bytes.length ≤ limit
  have other {w : Traced ω} {v : ω} {c : Contact} (h : Gives w)
      (none : ∀ limit bytes, c ≠ .read limit (.ready (.ok bytes))) : Gives ⟨v, w.trace ++ [c]⟩ := by
    intro limit bytes member
    rcases List.mem_append.mp member with earlier | new
    · exact h limit bytes earlier
    · exact (none limit bytes (List.mem_singleton.mp new).symm).elim
  have keeps : d.traced.Keeps Gives :=
    { read := by
        intro asked w h limit bytes member
        rcases List.mem_append.mp member with earlier | new
        · exact h limit bytes earlier
        · obtain ⟨rfl, value⟩ : limit = asked ∧ _ := by simpa using List.mem_singleton.mp new
          exact limited _ _ _ value.symm
      write := fun _ _ h => other h nofun
      flush := fun _ h => other h nofun
      shutdown := fun _ h => other h nofun
      inspect := fun _ _ h => other h nofun }
  have run : Gives (traced d setup stopped world turns).world :=
    traced_invariant (P := fun r => Gives r.world) (fun _ _ member => by cases member)
      (fun r h => Lane.step_keeps keeps r.lane r.stopped r.world h) (fun _ _ _ h => h) turns
  exact run limit bytes gave

theorem traced_asks (turns : List (Turn ω)) {limit : Nat} {answer : Poll (Except IoFault Bytes)}
    (asked : .read limit answer ∈ (traced d setup stopped world turns).world.trace) :
    limit = (Lane.start setup).capacity := by
  induction turns using List.reverseRecOn with
  | nil => cases asked
  | append_singleton turns t ih =>
      rw [traced_concat] at asked
      cases t with
      | meanwhile fires change => exact ih asked
      | step =>
          obtain ⟨contacts, s, moves, eq⟩ := advance_moves d (traced d setup stopped world turns)
          simp only [turn, Turn.traced, eq] at asked
          rcases List.mem_append.mp asked with earlier | now
          · exact ih earlier
          · rw [moves.asks now, Lane.capacity, traced_setup]
            rfl

theorem traced_offers (turns : List (Turn ω)) {offer : Bytes} {answer : Poll (Except IoFault Nat)}
    (offered : .write offer answer ∈ (traced d setup stopped world turns).world.trace) :
    offer ≠ [] ∧
      ∃ e ∈ (traced d setup stopped world turns).world.trace.shown, offer <:+ e.chunk := by
  induction turns using List.reverseRecOn with
  | nil => cases offered
  | append_singleton turns t ih =>
      rw [traced_concat] at offered ⊢
      cases t with
      | meanwhile fires change => exact ih offered
      | step =>
          let r := traced d setup stopped world turns
          obtain ⟨contacts, trace, offers⟩ := Lane.step_offers d r.lane r.stopped r.world
          have trace : (r.turn d.traced Turn.step.traced).world.trace = r.world.trace ++ contacts := trace
          rw [trace] at offered ⊢
          rw [Trace.shown_append]
          rcases List.mem_append.mp offered with earlier | now
          · obtain ⟨some_, e, seen, behind⟩ := ih earlier
            exact ⟨some_, e, List.mem_append_left _ seen, behind⟩
          · obtain ⟨some_, chunk, rest, here, behind⟩ := offers _ _ now
            obtain ⟨forwarded, books⟩ := traced_books d setup stopped world turns
            obtain ⟨part, whole, underWay⟩ := books.balance.of_writing here
            refine ⟨some_, r.lane.event chunk, List.mem_append_left _ ?_, ?_⟩
            · rw [underWay.shown, List.map_append]
              exact List.mem_append_right _ (List.mem_singleton.mpr rfl)
            · exact behind.trans ⟨part, whole⟩

theorem traced_bounded (limited : d.Limited) (some_ : 0 < setup.bufferSize) (turns : List (Turn ω)) :
    (traced d setup stopped world turns).world.trace.Bounded setup.bufferSize where
  asks _ _ asked := (traced_asks turns asked).trans (Lane.capacity_of_pos some_)
  gives _ _ gave :=
    (traced_gives limited turns gave).trans_eq
      ((traced_asks turns gave).trans (Lane.capacity_of_pos some_))
  offers _ _ offered := traced_offers turns offered

/-! ## Runs over a buffer -/

def unbuffered (r : LaneRun (Buffered ω)) : LaneRun ω := { r with world := r.world.world }

theorem advance_buffered {r : LaneRun (Buffered ω)} (limited : d.Limited)
    (some_ : 0 < r.lane.setup.bufferSize) (holds : r.lane.Holds r.world.buffer) :
    let next := r.advance (d.buffered more)
    next.unbuffered = r.unbuffered.advance d ∧ next.lane.Holds next.world.buffer := by
  obtain ⟨step, holds⟩ := Lane.step_buffered more limited some_ holds r.stopped
  refine ⟨?_, holds⟩
  simp only [advance, unbuffered, ← step]
  rfl

variable (d setup stopped world more)

/-- The run of a lane that reads through a buffer of its own, with a trace of the calls behind it. -/
def buffered (turns : List (Turn ω)) : LaneRun (Buffered (Traced ω)) :=
  (start setup stopped ⟨⟨world, []⟩, .ofCapacity setup.bufferSize⟩).follow
    (d.traced.buffered more) (turns.map fun t => t.traced.buffered)

theorem buffered_concat (turns : List (Turn ω)) (t : Turn ω) :
    buffered d setup stopped world more (turns ++ [t]) =
      (buffered d setup stopped world more turns).turn (d.traced.buffered more) t.traced.buffered := by
  rw [buffered, List.map_append, List.map_singleton, follow_concat]
  rfl

variable {d setup}

/-- A lane does over a buffer what it does without, and the buffer holds what it should all along. -/
theorem buffered_run (limited : d.Limited) (some_ : 0 < setup.bufferSize) (turns : List (Turn ω)) :
    let r := buffered d setup stopped world more turns
    r.unbuffered = traced d setup stopped world turns ∧ r.lane.Holds r.world.buffer := by
  induction turns using List.reverseRecOn with
  | nil => exact ⟨rfl, .of_idle rfl (Nat.zero_le _) rfl⟩
  | append_singleton turns t ih =>
      obtain ⟨same, holds⟩ := ih
      rw [buffered_concat, traced_concat, ← same]
      cases t with
      | meanwhile fires change => exact ⟨rfl, holds⟩
      | step =>
          have setup_eq : (buffered d setup stopped world more turns).lane.setup = setup :=
            (congrArg (·.lane.setup) same).trans (traced_setup turns)
          have traced : d.traced.Limited := fun limit w => limited limit w.world
          exact advance_buffered traced (setup_eq.symm ▸ some_) holds

variable {stopped world}

/-- The chunk that was read and that nobody has seen yet. -/
def unseen (r : LaneRun ω) : List Bytes :=
  match r.lane.phase with
  | .inspecting chunk => [chunk]
  | _ => []

theorem chunks_eq (turns : List (Turn ω)) :
    let r := traced d setup stopped world turns
    r.world.trace.chunks = r.world.trace.shown.map Event.chunk ++ r.unseen := by
  intro r
  obtain ⟨pending, seen⟩ := shown_eq d setup stopped world turns
  have back (chunks : List Bytes) :
      (chunks.map (⟨setup.sessionId, setup.localPort, setup.direction, ·⟩)).map Event.chunk =
        chunks := by
    rw [List.map_map]
    exact List.map_id _
  rw [← back r.world.trace.chunks]
  by_cases here : ∃ chunk, r.lane.phase = .inspecting chunk
  · obtain ⟨chunk, here⟩ := here
    rw [pending chunk here, List.map_append, unseen, here]
    rfl
  · have none : r.unseen = [] := by
      unfold unseen
      split
      next chunk inspecting => exact (here ⟨chunk, inspecting⟩).elim
      next => rfl
    rw [← seen fun chunk inspecting => here ⟨chunk, inspecting⟩, none, List.append_nil]

theorem length_of_mem_shown (limited : d.Limited) (some_ : 0 < setup.bufferSize)
    (turns : List (Turn ω)) {e : Event}
    (seen : e ∈ (traced d setup stopped world turns).world.trace.shown) :
    1 ≤ e.chunk.length ∧ e.chunk.length ≤ setup.bufferSize := by
  have member : e.chunk ∈ (traced d setup stopped world turns).world.trace.chunks := by
    rw [chunks_eq]
    exact List.mem_append_left _ (List.mem_map_of_mem seen)
  obtain ⟨full, limit, gave⟩ := Trace.exists_read_of_mem_chunks member
  exact ⟨List.length_pos_iff.mpr full, (traced_bounded limited some_ turns).gives limit _ gave⟩

end LaneRun

namespace Session

variable {s : Settings}

/-- The lanes of a session that a supervisor begins for a relay of valid settings read through a buffer of
the size that is set, which is never too large to be made. Over any devices that give no more than they are
asked for, whatever others do in between, a lane does over this buffer what it does without: all that the
source gives is shown to inspectors in chunks of at least one octet and at most the size of the buffer, and
each offer to the destination is the rest of one of them. The buffer never grows, is asked to take as much
for every chunk, and holds nothing but the chunk that the lane works on. -/
theorem chunks_fit_buffer (valid : s.validate = .ok ()) {v : Supervisor} (set : v.relay ∈ s.relays)
    (scene : Scene) (target : Party) (doorway : Doorway) (client : Socket) (direction : Direction)
    {d : Devices ω} (limited : d.Limited) (stopped : Bool) (world : ω) (more : Nat)
    (turns : List (Turn ω)) :
    let setup := ((v.pairing scene target doorway client).1.lane direction).setup
    let r := LaneRun.buffered d setup stopped world more turns
    let t := r.world.world.trace
    let size := v.relay.bufferSize
    setup.breakdown? = none ∧ r.unbuffered = LaneRun.traced d setup stopped world turns ∧
      (∀ e ∈ t.shown, 1 ≤ e.chunk.length ∧ e.chunk.length ≤ size) ∧
      t.octets = (t.shown.map Event.chunk).flatten ++ r.unseen.flatten ∧ t.Bounded size ∧
      r.world.buffer.capacity = size ∧ r.world.buffer.content.length ≤ size ∧
      ∀ chunk, r.lane.phase.chunk? = some chunk → r.world.buffer.content = chunk := by
  intro setup r t size
  have sound := (Settings.validate_eq_ok_iff.mp valid).relays_sound v.relay set
  have sized : setup.bufferSize = size := by
    cases direction <;> rfl
  have some_ : 0 < setup.bufferSize := sized ▸ sound.bufferSize_pos
  obtain ⟨same, holds⟩ := LaneRun.buffered_run stopped world more limited some_ turns
  have lane : r.lane = (LaneRun.traced d setup stopped world turns).lane := congrArg (·.lane) same
  have trace : t = (LaneRun.traced d setup stopped world turns).world.trace :=
    congrArg (·.world.trace) same
  have capacity : r.world.buffer.capacity = size := by
    rw [holds.capacity, lane, LaneRun.traced_setup, sized]
  refine ⟨?_, same, fun e seen => ?_, ?_, ?_, capacity, capacity ▸ holds.fits, holds.chunk⟩
  · have small : size ≤ maxBufferSize := sound.bufferSize_le
    have bound : maxBufferSize < Word.half64 := by decide
    rw [LaneSetup.breakdown?, sized, if_pos (by omega)]
  · rw [trace] at seen
    exact sized ▸ LaneRun.length_of_mem_shown limited some_ turns seen
  · have unseen : r.unseen = (LaneRun.traced d setup stopped world turns).unseen := by
      rw [LaneRun.unseen, LaneRun.unseen, lane]
    rw [← Trace.flatten_chunks, trace, LaneRun.chunks_eq, List.flatten_append, unseen]
  · rw [trace]
    exact sized ▸ LaneRun.traced_bounded limited some_ turns

/-- The second chunk is shorter than the first, and nothing of the first is left in the buffer. -/
theorem chunks_fit_buffer_twice :
    let relay : Relay := { Relay.atPort 3001 with targetPort := some 2, bufferSize := 4 }
    let settings : Settings := { Settings.standard with relays := [relay] }
    let scene := Scene.start {} (.start .noop ⟨[]⟩ "") fun _ => ""
    let target : Party := ⟨⟨0, .dialled⟩, relay.listenAddress⟩
    let p := (Supervisor.start relay).pairing scene target ⟨0, relay.listenAddress⟩ ⟨1, .accepted⟩
    let bench : Bench := ⟨[.data [1, 2, 3, 4, 5, 6]], [], [], none, scene.station, 0⟩
    let r := LaneRun.buffered Bench.devices (p.1.lane .server).setup false bench 64
      (.replicate 5 .step)
    let shown := r.world.world.trace.shown.map Event.chunk
    settings.validate = .ok () ∧ relay ∈ settings.relays ∧ Bench.devices.Limited ∧
      shown = [[1, 2, 3, 4], [5, 6]] ∧ r.world.buffer = ⟨[5, 6], 4⟩ ∧
      r.world.world.trace.octets = shown.flatten ++ r.unseen.flatten := by
  intro relay settings scene target p bench r shown
  have sound : relay.Sound :=
    ⟨by decide, by decide, by decide, by decide +kernel, by decide, by decide⟩
  have valid : settings.validate = .ok () :=
    Settings.validate_eq_ok_iff.mpr ⟨by simp [settings], by decide, by simpa [settings] using sound,
      (by decide : 64 ≠ 0)⟩
  have set : (Supervisor.start relay).relay ∈ settings.relays := List.mem_singleton.mpr rfl
  obtain ⟨_, _, _, passed, _⟩ := chunks_fit_buffer valid set scene target ⟨0, relay.listenAddress⟩
    ⟨1, .accepted⟩ .server Bench.limited_devices false bench 64 (.replicate 5 .step)
  exact ⟨valid, set, Bench.limited_devices, by decide +kernel, by decide +kernel, passed⟩

end Session

end Wiretap
