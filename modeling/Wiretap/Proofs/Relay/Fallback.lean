import Wiretap.Relay.Dialling
/-! # Which address of a target connects

Every attempt of a dialler is kept, so that the address that connects can be told from those in front
of it, which did not, and from those behind it, which were never tried. `Goes` says once how dialling
can go on over some addresses.
-/

namespace Wiretap

variable {ω σ : Type}

/-- The addresses that were dialled, in order, with what came of each. -/
abbrev Attempts (σ : Type) := List (SocketAddress × Except IoFault σ)

/-- The state of a dialler that keeps its attempts. -/
structure Recorded (ω σ : Type) where
  world : ω
  attempts : Attempts σ

namespace Dialler

/-- The same dialler, which keeps its attempts. -/
def recording (d : Dialler ω σ) : Dialler (Recorded ω σ) σ where
  dial address w :=
    let (result, world) := d.dial address w.world
    (result, ⟨world, w.attempts ++ [(address, result)]⟩)
  setNoDelay socket w :=
    let (result, world) := d.setNoDelay socket w.world
    (result, { w with world })

/-- Why a connection cannot send without delay. -/
def delayFault? (d : Dialler ω σ) (socket : σ) (w : ω) : Option IoFault :=
  match (d.setNoDelay socket w).1 with
  | .ok () => none
  | .error fault => some fault

end Dialler

namespace Dialling

variable (d : Dialler ω σ) {address : SocketAddress} {w v : ω}

/-! ## Steps -/

theorem step_of_missed {fault : IoFault} (missed : d.dial address w = (.error fault, v))
    (rest : List SocketAddress) (last : Option IoFault) :
    (trying (address :: rest) last).step d w =
      ⟨.trying rest (some fault), v, [failedEntry address fault]⟩ := by
  simp only [step, missed]

theorem step_of_connected {socket : σ} (connected : d.dial address w = (.ok socket, v))
    (rest : List SocketAddress) (last : Option IoFault) :
    (trying (address :: rest) last).step d w =
      ⟨.connected socket address, (d.setNoDelay socket v).2,
        ((d.delayFault? socket v).map (delayEntry address)).toList ++ [connectedEntry address]⟩ := by
  simp only [step, connected, Dialler.delayFault?]
  cases d.setNoDelay socket v with
  | mk result _ => cases result <;> rfl

/-- Where dialling ends when no address is left, by the fault of the one that was tried last. -/
def exhausted : Option IoFault → Dialling σ
  | none => .failed "no addresses resolved" none
  | some fault => .failed fault.message (some fault)

theorem step_of_exhausted (last : Option IoFault) (w : ω) :
    (trying [] last).step d w = ⟨exhausted last, w, []⟩ := by
  cases last <;> rfl

def IsOver : Dialling σ → Prop
  | .trying .. => False
  | _ => True

theorem isOver_exhausted (last : Option IoFault) : (exhausted last : Dialling σ).IsOver := by
  cases last <;> trivial

theorem runFor_of_isOver {dialling : Dialling σ} (ended : dialling.IsOver) (n : Nat) (w : ω) :
    runFor d n dialling w = ⟨dialling, w, []⟩ := by
  cases dialling with
  | trying => exact ended.elim
  | connected | failed =>
      induction n with
      | zero => rfl
      | succ n ih => simp only [runFor, step, ih, List.append_nil]

/-- A step that ends dialling is the whole run. -/
theorem runFor_succ_of_isOver {dialling : Dialling σ} (ended : (dialling.step d w).dialling.IsOver)
    (n : Nat) : runFor d (n + 1) dialling w = dialling.step d w := by
  rw [runFor, runFor_of_isOver d ended, List.append_nil]

/-! ## Attempts are kept and nothing else -/

/-- What a step leaves behind when the attempts are forgotten. -/
def Step.unrecorded (s : Step (Recorded ω σ) σ) : Step ω σ := ⟨s.dialling, s.world.world, s.journal⟩

theorem step_recording (dialling : Dialling σ) (w : Recorded ω σ) :
    (dialling.step d.recording w).unrecorded = dialling.step d w.world := by
  match dialling with
  | .connected .. | .failed .. => rfl
  | .trying [] last =>
      rw [step_of_exhausted, step_of_exhausted]
      rfl
  | .trying (address :: rest) last =>
      cases dialled : d.dial address w.world with
      | mk result v =>
          have kept : d.recording.dial address w = (result, ⟨v, w.attempts ++ [(address, result)]⟩) := by
            simp only [Dialler.recording, dialled]
          cases result with
          | error fault =>
              rw [step_of_missed d dialled, step_of_missed d.recording kept]
              rfl
          | ok socket =>
              rw [step_of_connected d dialled, step_of_connected d.recording kept]
              rfl

/-- A dialler that keeps its attempts comes to the same. -/
theorem runFor_recording (n : Nat) (dialling : Dialling σ) (w : Recorded ω σ) :
    (runFor d.recording n dialling w).unrecorded = runFor d n dialling w.world := by
  induction n generalizing dialling w with
  | zero => rfl
  | succ n ih =>
      rw [runFor, runFor, ← step_recording]
      simp only [Step.unrecorded, ← ih]

/-! ## How dialling goes on -/

/-- How dialling goes on over some addresses, when the one in front of them had a fault or there is
none: what is tried, where it ends, and what the journal says. -/
inductive Goes : Option IoFault → List SocketAddress → Attempts σ → Dialling σ → Journal → Prop where
  | exhausts (last : Option IoFault) : Goes last [] [] (exhausted last) []
  | connects (last : Option IoFault) (address : SocketAddress) (rest : List SocketAddress) (socket : σ)
      (delay : Option IoFault) :
      Goes last (address :: rest) [(address, .ok socket)] (.connected socket address)
        ((delay.map (delayEntry address)).toList ++ [connectedEntry address])
  | misses (last : Option IoFault) (address : SocketAddress) (fault : IoFault)
      {rest : List SocketAddress} {attempts : Attempts σ} {ending : Dialling σ} {journal : Journal}
      (more : Goes (some fault) rest attempts ending journal) :
      Goes last (address :: rest) ((address, .error fault) :: attempts) ending
        (failedEntry address fault :: journal)

theorem runFor_goes {n : Nat} {addresses : List SocketAddress} (enough : addresses.length < n)
    (last : Option IoFault) (w : Recorded ω σ) :
    let s := runFor d.recording n (.trying addresses last) w
    ∃ attempts, s.world.attempts = w.attempts ++ attempts ∧
      Goes last addresses attempts s.dialling s.journal := by
  obtain ⟨n, rfl⟩ := Nat.exists_eq_add_one_of_ne_zero (Nat.ne_zero_of_lt enough)
  induction addresses generalizing n last w with
  | nil =>
      have ends := step_of_exhausted d.recording last w
      rw [runFor_succ_of_isOver _ (ends ▸ isOver_exhausted last), ends]
      exact ⟨[], (List.append_nil _).symm, .exhausts last⟩
  | cons address rest ih =>
      cases dialled : d.dial address w.world with
      | mk result v =>
          have kept : d.recording.dial address w = (result, ⟨v, w.attempts ++ [(address, result)]⟩) := by
            simp only [Dialler.recording, dialled]
          cases result with
          | ok socket =>
              have ends := step_of_connected d.recording kept rest last
              rw [runFor_succ_of_isOver _ (ends ▸ trivial), ends]
              exact ⟨_, rfl, .connects last address rest socket _⟩
          | error fault =>
              rw [runFor, step_of_missed d.recording kept]
              have fewer : rest.length < n := Nat.lt_of_succ_lt_succ enough
              obtain ⟨n, rfl⟩ := Nat.exists_eq_add_one_of_ne_zero (Nat.ne_zero_of_lt fewer)
              obtain ⟨attempts, same, goes⟩ := ih (some fault) _ n fewer
              exact ⟨_, by rw [same, List.append_assoc]; rfl, .misses last address fault goes⟩

/-- An address that did not connect, as an attempt. -/
def missed (m : SocketAddress × IoFault) : SocketAddress × Except IoFault σ := (m.1, .error m.2)

/-- Either some address connects, behind others that did not, or none does. -/
theorem Goes.cases {last : Option IoFault} {addresses : List SocketAddress} {attempts : Attempts σ}
    {ending : Dialling σ} {journal : Journal} (goes : Goes last addresses attempts ending journal) :
    ∃ misses : List (SocketAddress × IoFault),
      (∃ address rest socket delay, addresses = misses.map Prod.fst ++ address :: rest ∧
        attempts = misses.map missed ++ [(address, .ok socket)] ∧ ending = .connected socket address ∧
        journal = misses.map (fun m => failedEntry m.1 m.2) ++
          (Option.map (delayEntry address) delay).toList ++ [connectedEntry address]) ∨
      addresses = misses.map Prod.fst ∧ attempts = misses.map missed ∧
        ending = exhausted ((misses.getLast?.map Prod.snd).or last) ∧
        journal = misses.map fun m => failedEntry m.1 m.2 := by
  induction goes with
  | exhausts last => exact ⟨[], .inr ⟨rfl, rfl, rfl, rfl⟩⟩
  | connects last address rest socket delay =>
      exact ⟨[], .inl ⟨address, rest, socket, delay, rfl, rfl, rfl, rfl⟩⟩
  | misses last address fault more ih =>
      obtain ⟨misses, ⟨found, rest, socket, delay, rfl, rfl, rfl, rfl⟩ | ⟨rfl, rfl, rfl, rfl⟩⟩ := ih
      · exact ⟨(address, fault) :: misses, .inl ⟨found, rest, socket, delay, rfl, rfl, rfl, rfl⟩⟩
      · refine ⟨(address, fault) :: misses, .inr ⟨rfl, rfl, ?_, rfl⟩⟩
        rw [List.getLast?_cons]
        cases misses.getLast? <;> rfl

theorem at_connected (address : SocketAddress) (delay : Option IoFault) :
    Journal.at [.info, .warn] ((delay.map (delayEntry address)).toList ++ [connectedEntry address]) =
      [connectedEntry address] := by
  cases delay <;> rfl

/-- Whether a connection can send without delay only shows in the journal. -/
theorem runFor_of_setNoDelay (setNoDelay : σ → ω → Except IoFault Unit × ω) (n : Nat)
    (dialling : Dialling σ) (w : Recorded ω σ) :
    let s := runFor d.recording n dialling w
    let other := runFor { d with setNoDelay }.recording n dialling w
    other.dialling = s.dialling ∧ other.world.attempts = s.world.attempts ∧
      other.journal.at [.info, .warn] = s.journal.at [.info, .warn] := by
  induction n generalizing dialling w with
  | zero => exact ⟨rfl, rfl, rfl⟩
  | succ n ih =>
      by_cases ended : dialling.IsOver
      · rw [runFor_of_isOver _ ended, runFor_of_isOver _ ended]
        exact ⟨rfl, rfl, rfl⟩
      match dialling with
      | .connected .. | .failed .. => exact (ended trivial).elim
      | .trying [] last =>
          have ends (d : Dialler ω σ) := step_of_exhausted d.recording last w
          have ended : (exhausted last : Dialling σ).IsOver := isOver_exhausted last
          rw [runFor_succ_of_isOver _ (ends _ ▸ ended), runFor_succ_of_isOver _ (ends _ ▸ ended), ends, ends]
          exact ⟨rfl, rfl, rfl⟩
      | .trying (address :: rest) last =>
          cases dialled : d.dial address w.world with
          | mk result v =>
              have kept (e : Dialler ω σ) (same : e.dial = d.dial) : e.recording.dial address w =
                  (result, ⟨v, w.attempts ++ [(address, result)]⟩) := by
                simp only [Dialler.recording, same, dialled]
              have here := kept d rfl
              have there := kept { d with setNoDelay } rfl
              cases result with
              | error fault =>
                  rw [runFor, runFor, step_of_missed _ here, step_of_missed _ there]
                  obtain ⟨ending, attempts, journal⟩ := ih (.trying rest (some fault))
                    ⟨v, w.attempts ++ [(address, .error fault)]⟩
                  refine ⟨ending, attempts, ?_⟩
                  simp only [Journal.at, List.filter_append] at journal ⊢
                  rw [journal]
              | ok socket =>
                  have ends := step_of_connected _ here rest last
                  have others := step_of_connected _ there rest last
                  rw [runFor_succ_of_isOver _ (ends ▸ trivial), ends,
                    runFor_succ_of_isOver _ (others ▸ trivial), others]
                  exact ⟨rfl, rfl, by rw [at_connected, at_connected]⟩

/-- Addresses are tried in their order up to the first that connects, and that connection is the one
that is handed over, with its address. When none connects each was tried once, and the fault is that of
the last; without any address, or when the target could not be resolved, there is nothing to try. The
journal names every address that did not connect before dialling ends. Whether the connection can send
without delay makes no difference to any of it. -/
theorem first_to_connect (t : Target) (resolved : Except IoFault (List SocketAddress)) (w : ω) :
    let s := (start resolved).run d.recording ⟨w, []⟩
    let result := s.dialling.result? t
    s.unrecorded = (start resolved).run d w ∧
    (∀ fault, resolved = .error fault → s.world.attempts = [] ∧ s.journal = [] ∧
      result = some (.error
        (.connect t.toText ("DNS resolution failed: " ++ fault.message) (some fault)))) ∧
    (∀ addresses, resolved = .ok addresses → ∃ misses : List (SocketAddress × IoFault),
      (∃ address rest socket delay, addresses = misses.map Prod.fst ++ address :: rest ∧
        s.world.attempts = misses.map missed ++ [(address, .ok socket)] ∧
        result = some (.ok (socket, address)) ∧
        s.journal = misses.map (fun m => failedEntry m.1 m.2) ++
          (Option.map (delayEntry address) delay).toList ++ [connectedEntry address]) ∨
      addresses = misses.map Prod.fst ∧ s.world.attempts = misses.map missed ∧
        s.journal = misses.map (fun m => failedEntry m.1 m.2) ∧
        result = some (.error (match misses.getLast? with
          | none => .connect t.toText "no addresses resolved" none
          | some (_, fault) => .connect t.toText fault.message (some fault)))) ∧
    ∀ setNoDelay,
      let other := (start resolved).run { d with setNoDelay }.recording ⟨w, []⟩
      other.dialling.result? t = result ∧ other.world.attempts = s.world.attempts ∧
        other.journal.at [.info, .warn] = s.journal.at [.info, .warn] := by
  intro s result
  refine ⟨runFor_recording d _ _ _, ?_, ?_, fun setNoDelay => ?_⟩
  · rintro fault rfl
    exact ⟨rfl, rfl, rfl⟩
  · rintro addresses rfl
    obtain ⟨attempts, kept, goes⟩ := runFor_goes d (Nat.lt_succ_self addresses.length) none ⟨w, []⟩
    obtain ⟨misses, ⟨address, rest, socket, delay, tried, same, ending, journal⟩ |
      ⟨tried, same, ending, journal⟩⟩ := goes.cases
    · have connected : result = some (.ok (socket, address)) := congrArg (result? t) ending
      exact ⟨misses, .inl ⟨address, rest, socket, delay, tried, kept.trans same, connected, journal⟩⟩
    · refine ⟨misses, .inr ⟨tried, kept.trans same, journal, (congrArg (result? t) ending).trans ?_⟩⟩
      cases misses.getLast? <;> rfl
  · obtain ⟨ending, attempts, journal⟩ := runFor_of_setNoDelay d setNoDelay
      ((start resolved).remaining + 1) (start resolved) ⟨w, []⟩
    exact ⟨congrArg (result? t) ending, attempts, journal⟩

end Dialling

end Wiretap
