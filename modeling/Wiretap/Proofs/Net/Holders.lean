import Wiretap.Net.Network
/-! # Who holds what on a host

Of the state of a host only this matters to ownership: which ends of connections are held, who
listens, and which connections wait where to be accepted. Each call is described by what it does to
these.
-/

namespace Wiretap

namespace Network

variable {n m k : Network} {s t : Socket} {l : Nat}

/-! ## Ends -/

theorem endpoint?_modify (n : Network) (s : Socket) (f : Endpoint → Endpoint) (t : Socket) :
    (n.modify s f).endpoint? t = if t = s then (n.endpoint? t).map f else n.endpoint? t := by
  obtain ⟨c, side⟩ := s
  obtain ⟨d, other⟩ := t
  simp only [endpoint?, modify, List.getElem?_modify, Socket.mk.injEq]
  by_cases same : c = d
  · subst same
    cases n.connections[c]? with
    | none => simp
    | some connection =>
        cases side <;> cases other <;> simp [Connection.modify, Connection.endpoint]
  · simp [same, Ne.symm same]

theorem endpoint?_modify_of_ne (n : Network) (f : Endpoint → Endpoint) (h : t ≠ s) :
    (n.modify s f).endpoint? t = n.endpoint? t := by
  rw [endpoint?_modify, if_neg h]

def size (n : Network) : Nat := n.connections.length

def doors (n : Network) : Nat := n.listeners.length

theorem lt_size_of_endpoint? {e : Endpoint} (h : n.endpoint? s = some e) : s.connection < n.size := by
  obtain ⟨connection, there, _⟩ := Option.map_eq_some_iff.mp h
  exact (List.getElem?_eq_some_iff.mp there).1

theorem exists_endpoint? (h : s.connection < n.size) : ∃ e, n.endpoint? s = some e :=
  ⟨_, Option.map_eq_some_iff.mpr ⟨_, List.getElem?_eq_getElem h, rfl⟩⟩

@[simp] theorem size_modify (f : Endpoint → Endpoint) : (n.modify s f).size = n.size := by
  simp [size, modify]

/-! ## What is held, listened at and waiting -/

/-- Somebody holds an end. -/
def Holds (n : Network) (s : Socket) : Prop := (n.endpoint? s).any (·.isOpen) = true

def Listens (n : Network) (l : Nat) : Prop := (n.listeners[l]?).any (·.isOpen) = true

/-- The connections that wait at a listener. -/
def queue (n : Network) (l : Nat) : List Nat := (n.listeners[l]?).elim [] (·.queue)

theorem Holds.lt_size (h : n.Holds s) : s.connection < n.size := by
  obtain ⟨e, there, _⟩ := (Option.any_eq_true ..).mp h
  exact lt_size_of_endpoint? there

theorem Listens.lt_doors (h : n.Listens l) : l < n.doors := by
  obtain ⟨x, there, _⟩ := (Option.any_eq_true ..).mp h
  exact (List.getElem?_eq_some_iff.mp there).1

theorem lt_doors_of_mem_queue {c : Nat} (h : c ∈ n.queue l) : l < n.doors := by
  rcases Nat.lt_or_ge l n.doors with within | beyond
  · exact within
  · simp [queue, List.getElem?_eq_none beyond] at h

/-- Nothing changes but that some ends are given up. -/
structure Closing (gone : Socket → Prop) (n m : Network) : Prop where
  size : m.size = n.size
  listeners : m.listeners = n.listeners
  holds (s : Socket) : m.Holds s ↔ n.Holds s ∧ ¬ gone s

/-- Nothing changes. -/
abbrev Alike : Network → Network → Prop := Closing fun _ => False

variable {gone more : Socket → Prop}

theorem Closing.congr (h : Closing gone n m) (same : ∀ s, more s ↔ gone s) : Closing more n m :=
  ⟨h.size, h.listeners, fun s => by rw [same s]; exact h.holds s⟩

theorem Closing.trans (first : Closing gone n m) (second : Closing more m k) :
    Closing (fun s => gone s ∨ more s) n k where
  size := second.size.trans first.size
  listeners := second.listeners.trans first.listeners
  holds s := by rw [second.holds, first.holds, not_or, and_assoc]

theorem Alike.refl (n : Network) : Alike n n := ⟨rfl, rfl, fun _ => by simp⟩

theorem Alike.then (first : Alike n m) (second : Closing gone m k) : Closing gone n k :=
  (first.trans second).congr fun s => by simp

theorem Closing.then (first : Closing gone n m) (second : Alike m k) : Closing gone n k :=
  (first.trans second).congr fun s => by simp

theorem Closing.listens (h : Closing gone n m) : m.Listens l ↔ n.Listens l := by
  rw [Listens, Listens, h.listeners]

theorem Closing.queue (h : Closing gone n m) : m.queue l = n.queue l := by
  rw [Network.queue, Network.queue, h.listeners]

theorem Closing.doors (h : Closing gone n m) : m.doors = n.doors := by
  rw [Network.doors, Network.doors, h.listeners]

theorem alike_failures (n : Network) (failures : List (NetworkCall × Nat)) :
    Alike n { n with failures } :=
  ⟨rfl, rfl, fun _ => (and_iff_left id).symm⟩

theorem alike_modify {f : Endpoint → Endpoint} (keeps : ∀ e, (f e).isOpen = e.isOpen) :
    Alike n (n.modify s f) := by
  refine ⟨size_modify f, rfl, fun t => ?_⟩
  simp only [Holds, endpoint?_modify, not_false_eq_true, and_true]
  split
  · cases n.endpoint? t <;> simp [keeps]
  · rfl

theorem closing_modify {f : Endpoint → Endpoint} (shuts : ∀ e, (f e).isOpen = false) :
    Closing (· = s) n (n.modify s f) := by
  refine ⟨size_modify f, rfl, fun t => ?_⟩
  simp only [Holds, endpoint?_modify]
  split
  next same => cases n.endpoint? t <;> simp [same, shuts]
  next other => simp [other]

theorem attempt_eq {call : NetworkCall} {result : Except IoFault Unit}
    (h : n.attempt call = (result, m)) : ∃ failures, m = { n with failures } := by
  simp only [attempt] at h
  split at h
  · exact ⟨_, (Prod.mk.inj h).2.symm⟩
  · exact ⟨n.failures, (Prod.mk.inj h).2.symm⟩

theorem attemptAll_eq {calls : List NetworkCall} {result : Except IoFault Unit}
    (h : n.attemptAll calls = (result, m)) : ∃ failures, m = { n with failures } := by
  induction calls generalizing n with
  | nil => exact ⟨n.failures, (Prod.mk.inj h).2.symm⟩
  | cons call rest ih =>
      simp only [attemptAll] at h
      split at h
      next made =>
        obtain ⟨failures, rfl⟩ := attempt_eq made
        obtain ⟨failures, eq⟩ := ih h
        exact ⟨failures, eq⟩
      next => exact attempt_eq h

theorem alike_receive (n : Network) (s : Socket) (limit : Nat) : Alike n (n.receive s limit).2 := by
  simp only [receive]
  split
  · exact .refl n
  · split
    · exact alike_modify fun _ => rfl
    all_goals exact .refl n

theorem alike_send (n : Network) (s : Socket) (bytes : Bytes) : Alike n (n.send s bytes).2 := by
  simp only [send]
  split
  · exact .refl n
  · split
    · exact .refl n
    · split
      · exact .refl n
      · exact alike_modify fun _ => rfl

theorem alike_offer (n : Network) (s : Socket) (bytes : Bytes) : Alike n (n.offer s bytes).2 := by
  have alike := n.alike_send s (n.fitting s bytes)
  simp only [offer]
  split
  next sent => rwa [sent] at alike
  next sent =>
    rw [sent] at alike
    split <;> exact alike

theorem alike_shutdown (n : Network) (s : Socket) : Alike n (n.shutdown s) :=
  alike_modify fun _ => rfl

theorem alike_tryNoDelay (n : Network) (s : Socket) : Alike n (n.tryNoDelay s) := by
  simp only [tryNoDelay, setNoDelay]
  split
  next made =>
    obtain ⟨failures, rfl⟩ := attempt_eq made
    exact (alike_failures n failures).then (alike_modify fun _ => rfl)
  next =>
    obtain ⟨failures, eq⟩ := attempt_eq (n := n) (m := (n.attempt .noDelay).2) rfl
    exact eq ▸ alike_failures n failures

theorem closing_close (n : Network) (s : Socket) : Closing (· = s) n (n.close s) := by
  simp only [close]
  split
  · exact (alike_shutdown n s).then (closing_modify fun _ => rfl)
  · refine Alike.then (m := n.modify s.opposite _) (alike_modify ?_) (closing_modify ?_) <;>
      exact fun _ => rfl

theorem closing_reset (n : Network) (s : Socket) : Closing (· = s) n (n.reset s) := by
  refine Alike.then (m := n.modify s.opposite _) (alike_modify ?_) (closing_modify ?_) <;>
    exact fun _ => rfl

theorem closing_foldl_close (connections : List Nat) (n : Network) :
    Closing (fun s => s.side = .accepted ∧ s.connection ∈ connections) n
      (connections.foldl (fun n c => n.close ⟨c, .accepted⟩) n) := by
  induction connections generalizing n with
  | nil => exact (Alike.refl n).congr fun s => by simp
  | cons c rest ih =>
      refine ((closing_close n ⟨c, .accepted⟩).trans (ih _)).congr fun s => ?_
      obtain ⟨d, side⟩ := s
      simp only [List.mem_cons, Socket.mk.injEq]
      constructor
      · rintro ⟨accepted, first | later⟩
        · exact .inl ⟨first, accepted⟩
        · exact .inr ⟨accepted, later⟩
      · rintro (⟨first, accepted⟩ | ⟨accepted, later⟩)
        · exact ⟨accepted, .inl first⟩
        · exact ⟨accepted, .inr later⟩

/-! ## Listeners -/

theorem queue_modify (n : Network) (l : Nat) (f : Listener → Listener) (k : Nat) :
    queue { n with listeners := n.listeners.modify l f } k =
      if k = l then (n.listeners[l]?).elim [] fun x => (f x).queue else n.queue k := by
  simp only [queue, List.getElem?_modify]
  by_cases same : l = k
  · subst same
    cases n.listeners[l]? <;> simp
  · simp [same, Ne.symm same]

theorem listens_modify {f : Listener → Listener} (keeps : ∀ x, (f x).isOpen = x.isOpen) (k : Nat) :
    Listens { n with listeners := n.listeners.modify l f } k ↔ n.Listens k := by
  simp only [Listens, List.getElem?_modify]
  by_cases same : l = k
  · cases n.listeners[k]? <;> simp [same, keeps]
  · simp [same]

/-- A listener listens from now on. -/
structure Opens (n m : Network) : Prop where
  size : m.size = n.size
  doors : m.doors = n.doors + 1
  holds (s : Socket) : m.Holds s ↔ n.Holds s
  listens (l : Nat) : m.Listens l ↔ n.Listens l ∨ l = n.doors
  queue (l : Nat) : m.queue l = n.queue l

theorem listen_cases {address : SocketAddress} {result : Except IoFault Nat}
    (h : n.listen address = (result, m)) :
    (∃ fault failures, result = .error fault ∧ m = { n with failures }) ∨
      ∃ failures, result = .ok n.doors ∧
        m = { n with failures, listeners := n.listeners ++ [⟨address, [], true⟩] } := by
  simp only [listen] at h
  split at h
  next made =>
    obtain ⟨failures, rfl⟩ := attemptAll_eq made
    obtain ⟨rfl, rfl⟩ := Prod.mk.inj h
    exact .inl ⟨_, failures, rfl, rfl⟩
  next made =>
    obtain ⟨failures, rfl⟩ := attemptAll_eq made
    split at h
    · obtain ⟨rfl, rfl⟩ := Prod.mk.inj h
      exact .inl ⟨_, failures, rfl, rfl⟩
    · split at h
      · obtain ⟨rfl, rfl⟩ := Prod.mk.inj h
        exact .inl ⟨_, failures, rfl, rfl⟩
      · split at h
        next made =>
          obtain ⟨failures, rfl⟩ := attempt_eq made
          obtain ⟨rfl, rfl⟩ := Prod.mk.inj h
          exact .inl ⟨_, failures, rfl, rfl⟩
        next made =>
          obtain ⟨failures, rfl⟩ := attempt_eq made
          obtain ⟨rfl, rfl⟩ := Prod.mk.inj h
          exact .inr ⟨failures, rfl, rfl⟩

theorem opens_listeners (n : Network) (failures : List (NetworkCall × Nat)) (address : SocketAddress) :
    Opens n { n with failures, listeners := n.listeners ++ [⟨address, [], true⟩] } where
  size := rfl
  doors := by simp [doors]
  holds _ := Iff.rfl
  listens l := by
    simp only [Listens, doors, List.getElem?_append]
    rcases Nat.lt_trichotomy l n.listeners.length with within | rfl | beyond
    · simp [within, Nat.ne_of_lt within]
    · simp
    · simp [Nat.not_lt_of_gt beyond, Nat.ne_of_gt beyond, Nat.sub_ne_zero_of_lt beyond]
  queue l := by
    simp only [queue, List.getElem?_append]
    rcases Nat.lt_trichotomy l n.listeners.length with within | rfl | beyond
    · simp [within]
    · simp
    · simp [Nat.not_lt_of_gt beyond, Nat.sub_ne_zero_of_lt beyond]

/-! ## Dialling -/

theorem dial_cases {address : SocketAddress} {result : Except IoFault Socket}
    (h : n.dial address = (result, m)) :
    (∃ fault failures, result = .error fault ∧ m = { n with failures }) ∨
      ∃ failures l, l < n.doors ∧ result = .ok ⟨n.size, .dialled⟩ ∧
        m = (connect { n with failures } l address).2 := by
  simp only [dial] at h
  split at h
  next made =>
    obtain ⟨failures, rfl⟩ := attemptAll_eq made
    obtain ⟨rfl, rfl⟩ := Prod.mk.inj h
    exact .inl ⟨_, failures, rfl, rfl⟩
  next made =>
    obtain ⟨failures, rfl⟩ := attemptAll_eq made
    split at h
    · obtain ⟨rfl, rfl⟩ := Prod.mk.inj h
      exact .inl ⟨_, failures, rfl, rfl⟩
    · split at h
      · obtain ⟨rfl, rfl⟩ := Prod.mk.inj h
        exact .inl ⟨_, failures, rfl, rfl⟩
      next found =>
        obtain ⟨rfl, rfl⟩ := Prod.mk.inj h
        exact .inr ⟨failures, _, (List.findIdx?_eq_some_iff_getElem.mp found).1, rfl, rfl⟩

/-- Nothing is different about the ends that were there, and those of a new connection are as they
begin. -/
structure Connects (n m : Network) (l : Nat) : Prop where
  size : m.size = n.size + 1
  doors : m.doors = n.doors
  earlier (s : Socket) : s.connection ≠ n.size → m.endpoint? s = n.endpoint? s
  begun (side : Side) : ∃ address, m.endpoint? ⟨n.size, side⟩ = some { address }
  listens (k : Nat) : m.Listens k ↔ n.Listens k
  queue (k : Nat) : m.queue k = if k = l then n.queue k ++ [n.size] else n.queue k

theorem Connects.holds (h : Connects n m l) (s : Socket) :
    m.Holds s ↔ n.Holds s ∨ s.connection = n.size := by
  by_cases new : s.connection = n.size
  · obtain ⟨address, begun⟩ := h.begun s.side
    have begun : m.endpoint? s = some { address } := by rw [← begun, ← new]
    simp [Holds, begun, new]
  · simp [Holds, h.earlier s new, new]

theorem connects_connect (failures : List (NetworkCall × Nat)) (address : SocketAddress)
    (within : l < n.doors) : Connects n (connect { n with failures } l address).2 l where
  size := by simp [size, connect]
  doors := by simp [doors, connect]
  earlier s ne := by
    have ne : s.connection ≠ n.connections.length := ne
    simp only [endpoint?, connect, List.getElem?_append]
    split
    · rfl
    next beyond =>
      have after : n.connections.length < s.connection := by omega
      rw [List.getElem?_eq_none (Nat.le_of_lt after), List.getElem?_eq_none]
      simp only [List.length_singleton]
      omega
  begun side := by
    cases side with
    | dialled =>
        refine ⟨dialledFrom { n with failures } address, ?_⟩
        simp [endpoint?, connect, size, Connection.endpoint]
    | accepted =>
        refine ⟨address, ?_⟩
        simp [endpoint?, connect, size, Connection.endpoint]
  listens k := listens_modify (f := fun x => { x with queue := x.queue ++ [n.size] }) (fun _ => rfl) k
  queue k := by
    refine (queue_modify n l _ k).trans ?_
    split
    next same =>
      subst same
      simp [queue, List.getElem?_eq_getElem within, size]
    next => rfl

/-! ## Accepting and not listening any more -/

/-- Only these wait at a listener from now on. -/
structure Leaves (n m : Network) (l : Nat) (rest : List Nat) : Prop where
  size : m.size = n.size
  doors : m.doors = n.doors
  holds (s : Socket) : m.Holds s ↔ n.Holds s
  listens (k : Nat) : m.Listens k ↔ n.Listens k
  queue (k : Nat) : m.queue k = if k = l then rest else n.queue k

theorem accept_cases {result : Poll (Except IoFault Socket)} (h : n.accept l = (result, m)) :
    (result = .pending ∧ m = n) ∨
      ∃ c rest failures, n.queue l = c :: rest ∧
        let left : Network :=
          { n with failures, listeners := n.listeners.modify l fun x => { x with queue := rest } }
        (result = .ready (.ok ⟨c, .accepted⟩) ∧ m = left) ∨
          ∃ fault, result = .ready (.error fault) ∧ m = left.close ⟨c, .accepted⟩ := by
  simp only [accept] at h
  split at h
  · obtain ⟨rfl, rfl⟩ := Prod.mk.inj h
    exact .inl ⟨rfl, rfl⟩
  next x there =>
    split at h
    · obtain ⟨rfl, rfl⟩ := Prod.mk.inj h
      exact .inl ⟨rfl, rfl⟩
    next c rest waiting =>
      have queued : n.queue l = c :: rest := by simp [queue, there, waiting]
      refine .inr ⟨c, rest, ?_⟩
      split at h
      next made =>
        obtain ⟨failures, rfl⟩ := attempt_eq made
        obtain ⟨rfl, rfl⟩ := Prod.mk.inj h
        exact ⟨failures, queued, .inl ⟨rfl, rfl⟩⟩
      next fault _ made =>
        obtain ⟨failures, rfl⟩ := attempt_eq made
        obtain ⟨rfl, rfl⟩ := Prod.mk.inj h
        exact ⟨failures, queued, .inr ⟨fault, rfl, rfl⟩⟩

theorem leaves_listeners {c : Nat} {rest : List Nat} (failures : List (NetworkCall × Nat))
    (queued : n.queue l = c :: rest) :
    Leaves n { n with failures, listeners := n.listeners.modify l fun x => { x with queue := rest } }
      l rest where
  size := rfl
  doors := by simp [doors]
  holds _ := Iff.rfl
  listens k := listens_modify (f := fun x => { x with queue := rest }) (fun _ => rfl) k
  queue k := by
    have within : l < n.listeners.length :=
      lt_doors_of_mem_queue (n := n) (l := l) (c := c) (by simp [queued])
    refine (queue_modify n l _ k).trans ?_
    simp [List.getElem?_eq_getElem within]

/-- A listener does not listen any more, and what waited there is given up. -/
structure Shuts (n m : Network) (l : Nat) : Prop where
  size : m.size = n.size
  doors : m.doors = n.doors
  holds (s : Socket) : m.Holds s ↔ n.Holds s ∧ ¬ (s.side = .accepted ∧ s.connection ∈ n.queue l)
  listens (k : Nat) : m.Listens k ↔ n.Listens k ∧ k ≠ l
  queue (k : Nat) : m.queue k = if k = l then [] else n.queue k

theorem shuts_unlisten (n : Network) (l : Nat) : Shuts n (n.unlisten l) l := by
  simp only [unlisten]
  split
  next nobody =>
    have empty : n.queue l = [] := by simp [queue, nobody]
    refine ⟨rfl, rfl, fun s => by simp [empty], fun k => ?_, fun k => ?_⟩
    · refine (and_iff_left_of_imp fun listens => ?_).symm
      rintro rfl
      simp [Listens, nobody] at listens
    · split
      next same => rw [same, empty]
      next => rfl
  next x there =>
    have queued : n.queue l = x.queue := by simp [queue, there]
    have closed := closing_foldl_close x.queue n
    refine ⟨closed.size, ?_, ?_, fun k => ?_, fun k => ?_⟩
    · simp [doors, closed.listeners]
    · rw [queued]
      exact closed.holds
    · simp only [Listens, closed.listeners, List.getElem?_modify]
      by_cases same : l = k
      · subst same
        simp [there]
      · simp [same, Ne.symm same]
    · refine (queue_modify _ l (fun x => { x with queue := [], isOpen := false }) k).trans ?_
      rw [closed.listeners, there, closed.queue]
      rfl

end Network

end Wiretap
