import Wiretap.Proofs.Lane.Effects
import Wiretap.Proofs.Net.Streams
import Wiretap.Proofs.Session.Ending
/-! # What a session carries

The calls of a lane are all that is received at its source and sent into its destination. So the
ledger of the host agrees with the books of the lane: what the lane had accepted went into one
connection, what it read came out of the other.
-/

namespace Wiretap

open Network

namespace Session

/-- The calls that a lane makes in its next step. -/
def calls (p : Session) (direction : Direction) (scene : Scene) : Trace :=
  ((p.lane direction).step (p.devices direction).muted.traced p.stopped ⟨scene, []⟩).world.trace

/-- The socket that the lane of a direction reads from. -/
def source (p : Session) : Direction → Socket
  | .client => p.client
  | .server => p.target

/-- The socket that the lane of a direction writes to. -/
def destination (p : Session) : Direction → Socket
  | .client => p.target
  | .server => p.client

theorem devices_eq (p : Session) (direction : Direction) :
    p.devices direction = Scene.devices (p.source direction) (p.destination direction) := by
  cases direction <;> rfl

/-- The next step of a lane over devices that keep its calls. -/
def tracedStep (p : Session) (direction : Direction) (scene : Scene) : Lane.Step (Traced Scene) :=
  (p.lane direction).step (p.devices direction).muted.traced p.stopped ⟨scene, []⟩

theorem tracedStep_moves (p : Session) (direction : Direction) (scene : Scene) :
    (p.lane direction).Moves p.stopped (p.calls direction scene) (p.tracedStep direction scene) := by
  obtain ⟨contacts, trace, moves⟩ :=
    Lane.step_moves (p.devices direction).muted (p.lane direction) p.stopped ⟨scene, []⟩
  have calls : p.calls direction scene = contacts := trace
  exact calls ▸ moves

theorem stepLane_eq_tracedStep (p : Session) (direction : Direction) (scene : Scene) :
    let r := p.stepLane direction scene
    let s := p.tracedStep direction scene
    r.session.lane direction = s.lane ∧ r.acts = s.acts ∧
      r.scene = s.acts.foldl (Scene.note (p.lane direction).setup) s.world.world := by
  have same : (p.tracedStep direction scene).untraced = _ :=
    Lane.step_traced (p.devices direction).muted (p.lane direction) p.stopped ⟨scene, []⟩
  have lane := congrArg Lane.Step.lane same
  have acts := congrArg Lane.Step.acts same
  have world := congrArg Lane.Step.world same
  exact ⟨(p.lane_stepOver direction _ _).trans lane.symm, acts.symm, by
    simp only [stepLane, stepOver, ← acts, ← world]; rfl⟩

end Session

/-! ## The ledger of a lane -/

namespace Ledger

def follow (b : Ledger) (source destination : Socket) (calls : Trace) : Ledger :=
  (b.receive source calls.chunks.flatten).send destination calls.accepted

variable (b : Ledger) (source destination : Socket) (t u : Trace)

@[simp] theorem follow_nil : b.follow source destination [] = b := by
  simp [follow, Trace.chunks, Trace.accepted]

theorem follow_append :
    b.follow source destination (t ++ u) =
      (b.follow source destination t).follow source destination u := by
  simp only [follow, Trace.chunks_append, Trace.accepted_append, List.flatten_append, receive_send,
    receive_receive, send_send]

theorem follow_read (limit : Nat) (bytes : Bytes) :
    b.follow source destination [.read limit (.ready (.ok bytes))] = b.receive source bytes := by
  have accepted : Trace.accepted [.read limit (.ready (.ok bytes))] = [] := rfl
  have chunks : (Trace.chunks [.read limit (.ready (.ok bytes))]).flatten = bytes := by
    cases bytes with
    | nil => rfl
    | cons octet more => exact List.append_nil _
  rw [follow, accepted, chunks, send_nil]

theorem follow_write {bytes fits : Bytes} (first : fits <+: bytes) :
    b.follow source destination [.write bytes (.ready (.ok fits.length))] =
      b.send destination fits := by
  have chunks : Trace.chunks [.write bytes (.ready (.ok fits.length))] = [] := rfl
  have accepted : Trace.accepted [.write bytes (.ready (.ok fits.length))] = fits := by
    rw [List.prefix_iff_eq_take.mp first]
    simp [Trace.accepted, Contact.accepted]
  rw [follow, chunks, accepted, List.flatten_nil, receive_nil]

/-- A call that gives no chunk and takes nothing does not show in the ledger. -/
theorem follow_of_idle {c : Contact} (chunk : c.chunk? = none) (accepted : c.accepted = []) :
    b.follow source destination [c] = b := by
  simp [follow, Trace.chunks, Trace.accepted, chunk, accepted]

theorem received_follow_self :
    (b.follow source destination t).received source = b.received source ++ t.chunks.flatten := by
  simp [follow]

theorem sent_follow_self :
    (b.follow source destination t).sent destination = b.sent destination ++ t.accepted := by
  simp [follow]

variable {source destination} {s : Socket}

theorem received_follow_of_ne (h : s ≠ source) :
    (b.follow source destination t).received s = b.received s :=
  received_receive_of_ne b _ h

theorem sent_follow_of_ne (h : s ≠ destination) :
    (b.follow source destination t).sent s = b.sent s :=
  sent_send_of_ne (b.receive source _) _ h

end Ledger

/-- A host after some calls of a lane that reads from an end which is held: the ledger follows, and
where the end of what is sent was read all was received. -/
structure Network.Follows (b : Ledger) (n : Network) (source destination : Socket) (t : Trace)
    (m : Network) : Prop where
  conserves : b.Conserves n (b.follow source destination t) m
  held : m.Holds source
  drained (limit : Nat) : 0 < limit → .read limit (.ready (.ok [])) ∈ t →
    (b.follow source destination t).Drained m source

namespace Network.Follows

variable {b : Ledger} {n m k : Network} {source destination : Socket} {t : Trace}

/-- One more call. -/
theorem concat (h : Follows b n source destination t m) (records : b.Records n) {c : Contact}
    (conserves : (b.follow source destination t).Conserves m
      ((b.follow source destination t).follow source destination [c]) k)
    (held : k.Holds source)
    (ends : ∀ limit, 0 < limit → c = .read limit (.ready (.ok [])) →
      (b.follow source destination t).Drained m source) :
    Follows b n source destination (t ++ [c]) k where
  conserves := by
    rw [Ledger.follow_append]
    exact h.conserves.trans conserves
  held := held
  drained limit asked member := by
    rw [Ledger.follow_append]
    refine conserves.drained source (h.conserves.records records) ?_
    rcases List.mem_append.mp member with earlier | new
    · exact h.drained limit asked earlier
    · exact ends limit asked (List.mem_singleton.mp new).symm

/-- One more call that neither gives nor takes anything. -/
theorem idle (h : Follows b n source destination t m) (records : b.Records n) {c : Contact}
    (chunk : c.chunk? = none) (accepted : c.accepted = [])
    (open_ : ∀ limit, c ≠ .read limit (.ready (.ok []))) (fades : m.Fades k) (alike : Alike m k) :
    Follows b n source destination (t ++ [c]) k := by
  refine h.concat records ?_ ((alike.holds source).mpr ⟨h.held, id⟩) fun limit _ eq => ?_
  · rw [Ledger.follow_of_idle _ _ _ chunk accepted]
    exact Ledger.conserves_fades _ fades
  · exact absurd eq (open_ limit)

theorem read (h : Follows b n source destination t m) (records : b.Records n) (limit : Nat) :
    Follows b n source destination (t ++ [.read limit (m.receive source limit).1])
      (m.receive source limit).2 := by
  have alike := alike_receive m source limit
  cases received : m.receive source limit with
  | mk value k =>
      rw [received] at alike
      have quiet (same : k = m) (waits : ∀ bytes, value ≠ .ready (.ok bytes)) :
          Follows b n source destination (t ++ [.read limit value]) k := by
        subst same
        refine h.idle records ?_ rfl (fun _ eq => waits [] (Contact.read.inj eq).2) (.refl k) alike
        unfold Contact.chunk?
        split
        next octet more eq => exact absurd (Contact.read.inj eq).2 (waits _)
        next => rfl
      cases value with
      | pending => exact quiet (receive_eq_of_not_ok received nofun) nofun
      | ready result =>
          cases result with
          | error fault => exact quiet (receive_eq_of_not_ok received nofun) nofun
          | ok bytes =>
              refine h.concat records ?_ ((alike.holds source).mpr ⟨h.held, id⟩) ?_
              · rw [Ledger.follow_read]
                exact Ledger.conserves_receive received
              · rintro _ asked eq
                cases eq
                exact (h.conserves.records records).drained_of_receive received h.held asked

theorem write (h : Follows b n source destination t m) (records : b.Records n) (bytes : Bytes) :
    Follows b n source destination (t ++ [.write bytes (m.offer destination bytes).1])
      (m.offer destination bytes).2 := by
  have alike := alike_offer m destination bytes
  cases offered : m.offer destination bytes with
  | mk value k =>
      rw [offered] at alike
      rcases offer_cases offered with ⟨fits, first, rfl, sent⟩ | ⟨rfl, waits⟩
      · refine h.concat records ?_ ((alike.holds source).mpr ⟨h.held, id⟩) nofun
        rw [Ledger.follow_write _ _ _ first]
        exact Ledger.conserves_send sent
      · refine h.idle records rfl ?_ nofun (.refl k) alike
        unfold Contact.accepted
        split
        next eq => exact absurd (Contact.write.inj eq).2 (waits _)
        next => rfl

end Network.Follows

theorem Scene.devices_follow {b : Ledger} {n : Network} (records : b.Records n)
    (source destination : Socket) :
    (Scene.devices source destination).muted.traced.Keeps fun w =>
      Follows b n source destination w.trace w.world.network where
  read limit _ h := h.read records limit
  write bytes _ h := h.write records bytes
  flush _ h := h.idle records rfl rfl nofun (.refl _) (.refl _)
  shutdown _ h := h.idle records rfl rfl nofun (fades_shutdown ..) (alike_shutdown ..)
  inspect _ _ h := h.idle records rfl rfl nofun (.refl _) (.refl _)

/-! ## Steps of a session -/

theorem Scene.network_foldl_note (setup : LaneSetup) (acts : List Act) (scene : Scene) :
    (acts.foldl (Scene.note setup) scene).network = scene.network := by
  induction acts generalizing scene with
  | nil => rfl
  | cons act rest ih => exact (ih (scene.note setup act)).trans rfl

/-- A lane that finds the end of its source has just read it. -/
theorem Lane.Moves.sourceEnded {ω : Type} {lane : Lane} {stopped : Bool} {contacts : Trace}
    {s : Step ω} (h : Moves lane stopped contacts s)
    (here : s.lane.phase.ending? = some .peerClosed) :
    lane.phase.ending? = some .peerClosed ∨ .read lane.capacity (.ready (.ok [])) ∈ contacts := by
  cases h with
  | sourceEnds => exact .inr List.mem_cons_self
  | shutdownWaits at_ | rests at_ => exact .inl here
  | shutsDown at_ =>
      rw [at_]
      exact .inl here
  | readWaits at_ => exact .inl here
  | stopsReading | readFails | reads | inspects | stopsWriting | writeWaits | writeFails | forwards =>
      simp [finish, countForwarded, Phase.ending?] at here

theorem Lane.capacity_pos (lane : Lane) : 0 < lane.capacity := by
  unfold capacity
  split <;> omega

namespace Session

variable {p : Session} {direction : Direction} {b c : Ledger} {n m : Network} {scene : Scene}

/-- What the ledger says of the ends of a session is what the books of a lane say. -/
def Carries (p : Session) (direction : Direction) (b : Ledger) (n : Network) : Prop :=
  ∃ t forwarded, Lane.Books (p.lane direction) t forwarded ∧
    b.received (p.source direction) = t.chunks.flatten ∧
    b.sent (p.destination direction) = t.accepted ∧
    ((p.lane direction).phase.ending? = some .peerClosed → b.Drained n (p.source direction))

theorem carries_start {setup : LaneSetup} (begins : p.lane direction = .start setup)
    (received : b.received (p.source direction) = []) (sent : b.sent (p.destination direction) = []) :
    p.Carries direction b n := by
  rw [Carries, begins]
  exact ⟨[], [], ⟨rfl, rfl, rfl, .reading rfl ⟨rfl, rfl, rfl⟩⟩, received, sent, nofun⟩

theorem Carries.sent_prefix (h : p.Carries direction b n) :
    b.sent (p.destination direction) <+: b.received (p.source direction) := by
  obtain ⟨t, forwarded, books, received, sent, _⟩ := h
  rw [received, sent]
  exact books.accepted_prefix

theorem Carries.sent_eq (h : p.Carries direction b n)
    (here : (p.lane direction).phase.ending? = some .peerClosed) :
    b.sent (p.destination direction) = b.sent (p.source direction).opposite := by
  obtain ⟨t, forwarded, books, received, sent, drained⟩ := h
  rw [sent, books.accepted_eq_of_peerClosed here, ← received]
  exact (drained here).1

/-- What goes on elsewhere does not matter. -/
theorem Carries.elsewhere {q : Session} (h : p.Carries direction b n) (records : b.Records n)
    (conserves : b.Conserves n c m) (lane : q.lane direction = p.lane direction)
    (source : q.source direction = p.source direction)
    (destination : q.destination direction = p.destination direction)
    (received : c.received (p.source direction) = b.received (p.source direction))
    (sent : c.sent (p.destination direction) = b.sent (p.destination direction)) :
    q.Carries direction c m := by
  obtain ⟨t, forwarded, books, read, accepted, drained⟩ := h
  rw [Carries, lane, source, destination]
  exact ⟨t, forwarded, books, received.trans read, sent.trans accepted,
    fun here => conserves.drained _ records (drained here)⟩

theorem ends_stepLane (p : Session) (direction other : Direction) (scene : Scene) :
    (p.stepLane direction scene).session.source other = p.source other ∧
      (p.stepLane direction scene).session.destination other = p.destination other := by
  cases direction <;> cases other <;> exact ⟨rfl, rfl⟩

def ledgerAfter (p : Session) (direction : Direction) (scene : Scene) (b : Ledger) : Ledger :=
  b.follow (p.source direction) (p.destination direction) (p.calls direction scene)

theorem received_ledgerAfter_of_ne {s : Socket} (ne : s ≠ p.source direction) :
    (p.ledgerAfter direction scene b).received s = b.received s :=
  b.received_follow_of_ne _ ne

theorem sent_ledgerAfter_of_ne {s : Socket} (ne : s ≠ p.destination direction) :
    (p.ledgerAfter direction scene b).sent s = b.sent s :=
  b.sent_follow_of_ne _ ne

/-- What a step of a lane does to the ledger, and to what the lane carries. -/
theorem stepLane_carries (records : b.Records scene.network)
    (held : scene.network.Holds (p.source direction)) :
    let r := p.stepLane direction scene
    b.Conserves scene.network (p.ledgerAfter direction scene b) r.scene.network ∧
      (p.Carries direction b scene.network →
        r.session.Carries direction (p.ledgerAfter direction scene b) r.scene.network) := by
  intro r
  have moves := p.tracedStep_moves direction scene
  obtain ⟨lane, _, after⟩ := p.stepLane_eq_tracedStep direction scene
  have devices := Scene.devices_follow records (p.source direction) (p.destination direction)
  rw [← p.devices_eq direction] at devices
  have follows := Lane.step_keeps devices (p.lane direction) p.stopped ⟨scene, []⟩
    ⟨by rw [Ledger.follow_nil]; exact .refl _ _, held, nofun⟩
  change Follows b _ _ _ (p.calls direction scene) (p.tracedStep direction scene).world.world.network
    at follows
  have network : r.scene.network = (p.tracedStep direction scene).world.world.network :=
    (congrArg Scene.network after).trans (Scene.network_foldl_note ..)
  rw [ledgerAfter, network]
  refine ⟨follows.conserves, ?_⟩
  rintro ⟨t, forwarded, books, received, sent, drained⟩
  obtain ⟨more, books, _⟩ := books.moves moves
  obtain ⟨source, destination⟩ := p.ends_stepLane direction direction scene
  rw [Carries, lane, source, destination]
  refine ⟨t ++ p.calls direction scene, _, books, ?_, ?_, fun here => ?_⟩
  · rw [Ledger.received_follow_self, received, Trace.chunks_append, List.flatten_append]
  · rw [Ledger.sent_follow_self, sent, Trace.accepted_append]
  · rcases moves.sourceEnded here with earlier | now
    · exact follows.conserves.drained _ records (drained earlier)
    · exact follows.drained _ (Lane.capacity_pos _) now

end Session

end Wiretap
