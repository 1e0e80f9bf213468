import Mathlib.Logic.Function.Basic
import Wiretap.Proofs.Net.Holders
/-! # Streams

What was sent into one end of a connection is what was received at the other one and what waits
there, unless the other one is given up: then the end of it is lost. A ledger keeps what was sent and
received, and each call is described by what it does to the agreement of the two.
-/

namespace Wiretap

namespace Inbox

theorem octets_eq (i : Inbox) : i.octets = i.front ++ i.back.reverse.flatten := by
  simp only [octets]
  split
  next nothing => simp [List.isEmpty_iff.mp nothing]
  next => rfl

theorem octets_push (i : Inbox) (bytes : Bytes) : (i.push bytes).octets = i.octets ++ bytes := by
  simp [octets_eq, push]

theorem octets_front (front : Bytes) : ({ front } : Inbox).octets = front := rfl

theorem octets_empty : ({} : Inbox).octets = [] := rfl

end Inbox

theorem Socket.opposite_opposite (s : Socket) : s.opposite.opposite = s := by
  obtain ⟨c, side⟩ := s
  cases side <;> rfl

theorem Socket.opposite_eq_iff {s t : Socket} : s.opposite = t ↔ s = t.opposite := by
  constructor
  · rintro rfl
    exact s.opposite_opposite.symm
  · rintro rfl
    exact t.opposite_opposite

/-- All that was ever sent into each end of a connection, and all that was received there. -/
structure Ledger where
  sent : Socket → Bytes
  received : Socket → Bytes

namespace Ledger

def blank : Ledger := ⟨fun _ => [], fun _ => []⟩

def send (b : Ledger) (s : Socket) (bytes : Bytes) : Ledger :=
  { b with sent := Function.update b.sent s (b.sent s ++ bytes) }

def receive (b : Ledger) (s : Socket) (bytes : Bytes) : Ledger :=
  { b with received := Function.update b.received s (b.received s ++ bytes) }

variable (b : Ledger) (s : Socket) (x y : Bytes)

@[simp] theorem send_nil : b.send s [] = b := by
  simp [send]

@[simp] theorem receive_nil : b.receive s [] = b := by
  simp [receive]

theorem send_send : (b.send s x).send s y = b.send s (x ++ y) := by
  simp [send]

theorem receive_receive : (b.receive s x).receive s y = b.receive s (x ++ y) := by
  simp [receive]

theorem receive_send (t : Socket) : (b.send s x).receive t y = (b.receive t y).send s x := rfl

@[simp] theorem sent_receive : (b.receive s x).sent = b.sent := rfl

@[simp] theorem received_send : (b.send s x).received = b.received := rfl

@[simp] theorem sent_send_self : (b.send s x).sent s = b.sent s ++ x := Function.update_self ..

@[simp] theorem received_receive_self : (b.receive s x).received s = b.received s ++ x :=
  Function.update_self ..

variable {s} {t : Socket}

theorem sent_send_of_ne (h : t ≠ s) : (b.send s x).sent t = b.sent t := Function.update_of_ne h ..

theorem received_receive_of_ne (h : t ≠ s) : (b.receive s x).received t = b.received t :=
  Function.update_of_ne h ..

end Ledger

/-! ## Ends -/

namespace Endpoint

/-- An end has what was sent to it and not received yet, unless it was given up. -/
structure Accounts (e : Endpoint) (received sent : Bytes) : Prop where
  fits : received ++ e.inbox.octets <+: sent
  whole : e.isOpen = true → received ++ e.inbox.octets = sent

/-- An end as it is later, when nothing has come to it. -/
structure Fades (e f : Endpoint) : Prop where
  inbox : f.inbox = e.inbox ∨ f.inbox = {}
  ended : e.ending.isSome = true → f.ending.isSome = true
  intact : f.isOpen = true → f.inbox = e.inbox ∧ e.isOpen = true

variable {e f g : Endpoint} {received sent : Bytes}

theorem Fades.refl (e : Endpoint) : e.Fades e := ⟨.inl rfl, id, fun held => ⟨rfl, held⟩⟩

theorem Fades.trans (first : e.Fades f) (second : f.Fades g) : e.Fades g where
  inbox := by
    rcases second.inbox with same | lost
    · exact first.inbox.imp same.trans same.trans
    · exact .inr lost
  ended h := second.ended (first.ended h)
  intact held := by
    obtain ⟨same, held⟩ := second.intact held
    obtain ⟨earlier, held⟩ := first.intact held
    exact ⟨same.trans earlier, held⟩

theorem Accounts.fades (h : e.Accounts received sent) (later : e.Fades f) :
    f.Accounts received sent where
  fits := by
    rcases later.inbox with same | lost
    · rw [same]
      exact h.fits
    · rw [lost, Inbox.octets_empty]
      exact (List.prefix_append_right_inj received).mpr List.nil_prefix |>.trans h.fits
  whole held := by
    obtain ⟨same, held⟩ := later.intact held
    rw [same]
    exact h.whole held

/-- Octets arrive at an end that is held. -/
theorem Accounts.push (h : e.Accounts received sent) (held : e.isOpen = true) (bytes : Bytes) :
    ({ e with inbox := e.inbox.push bytes }).Accounts received (sent ++ bytes) := by
  have all : received ++ (e.inbox.push bytes).octets = sent ++ bytes := by
    rw [Inbox.octets_push, ← List.append_assoc, h.whole held]
  exact ⟨all ▸ List.prefix_rfl, fun _ => all⟩

/-- The first octets that wait at an end are received. -/
theorem Accounts.take (h : e.Accounts received sent) (limit : Nat) :
    ({ e with inbox := { front := e.inbox.octets.drop limit } }).Accounts
      (received ++ e.inbox.octets.take limit) sent := by
  have all : received ++ e.inbox.octets.take limit ++
      ({ front := e.inbox.octets.drop limit } : Inbox).octets = received ++ e.inbox.octets := by
    rw [Inbox.octets_front, List.append_assoc, List.take_append_drop]
  exact ⟨all ▸ h.fits, fun held => all.trans (h.whole held)⟩

end Endpoint

/-! ## Hosts -/

namespace Network

variable {n m k : Network} {s t : Socket}

/-- A host as it is later, when nothing was sent or received and nobody connected. -/
structure Fades (n m : Network) : Prop where
  size : m.size = n.size
  ends (s : Socket) (e : Endpoint) :
    n.endpoint? s = some e → ∃ f, m.endpoint? s = some f ∧ e.Fades f

theorem Fades.refl (n : Network) : n.Fades n := ⟨rfl, fun _ e here => ⟨e, here, .refl e⟩⟩

theorem Fades.trans (first : n.Fades m) (second : m.Fades k) : n.Fades k where
  size := second.size.trans first.size
  ends s e here := by
    obtain ⟨f, there, early⟩ := first.ends s e here
    obtain ⟨g, last, late⟩ := second.ends s f there
    exact ⟨g, last, early.trans late⟩

theorem fades_of_connections (same : m.connections = n.connections) : n.Fades m where
  size := by rw [size, size, same]
  ends s e here := ⟨e, by rwa [endpoint?, same], .refl e⟩

theorem fades_modify {f : Endpoint → Endpoint} (fades : ∀ e : Endpoint, e.Fades (f e)) :
    n.Fades (n.modify s f) where
  size := size_modify f
  ends t e here := by
    rw [endpoint?_modify, here]
    split
    · exact ⟨f e, rfl, fades e⟩
    · exact ⟨e, rfl, .refl e⟩

theorem fades_shutdown (n : Network) (s : Socket) : n.Fades (n.shutdown s) := by
  refine fades_modify fun e => ⟨.inl rfl, ?_, fun held => ⟨rfl, held⟩⟩
  cases e.ending <;> simp

/-- An end that is given up has nothing any more. -/
theorem fades_drop (n : Network) (s : Socket) :
    n.Fades (n.modify s fun e => { e with inbox := {}, isOpen := false }) :=
  fades_modify fun _ => ⟨.inr rfl, id, fun held => nomatch held⟩

theorem fades_close (n : Network) (s : Socket) : n.Fades (n.close s) := by
  simp only [close]
  split
  · exact (fades_shutdown n s).trans (fades_drop _ s)
  · refine Fades.trans (fades_modify ?_) (fades_drop _ s)
    exact fun e => ⟨.inl rfl, fun _ => rfl, fun held => ⟨rfl, held⟩⟩

theorem fades_reset (n : Network) (s : Socket) : n.Fades (n.reset s) := by
  refine Fades.trans (fades_modify ?_) (fades_drop _ s)
  exact fun e => ⟨.inl rfl, fun _ => rfl, fun held => ⟨rfl, held⟩⟩

theorem fades_tryNoDelay (n : Network) (s : Socket) : n.Fades (n.tryNoDelay s) := by
  simp only [tryNoDelay, setNoDelay]
  split
  next made =>
    obtain ⟨failures, rfl⟩ := attempt_eq made
    refine Fades.trans (m := { n with failures }) (fades_of_connections rfl) (fades_modify ?_)
    exact fun e => ⟨.inl rfl, id, fun held => ⟨rfl, held⟩⟩
  next =>
    obtain ⟨failures, eq⟩ := attempt_eq (n := n) (m := (n.attempt .noDelay).2) rfl
    exact eq ▸ fades_of_connections rfl

theorem fades_foldl_close (connections : List Nat) (n : Network) :
    n.Fades (connections.foldl (fun n c => n.close ⟨c, .accepted⟩) n) := by
  induction connections generalizing n with
  | nil => exact .refl n
  | cons c rest ih => exact (fades_close n _).trans (ih _)

theorem fades_unlisten (n : Network) (l : Nat) : n.Fades (n.unlisten l) := by
  simp only [unlisten]
  split
  · exact .refl n
  next x _ => exact (fades_foldl_close x.queue n).trans (fades_of_connections rfl)

theorem fades_listen (n : Network) (address : SocketAddress) : n.Fades (n.listen address).2 := by
  cases listened : n.listen address with
  | mk result m =>
      rcases listen_cases listened with ⟨_, _, _, rfl⟩ | ⟨_, _, rfl⟩ <;>
        exact fades_of_connections rfl

theorem fades_accept (n : Network) (l : Nat) : n.Fades (n.accept l).2 := by
  cases accepted : n.accept l with
  | mk result m =>
      rcases accept_cases accepted with ⟨_, rfl⟩ | ⟨_, _, _, _, ⟨_, rfl⟩ | ⟨_, _, rfl⟩⟩
      · exact .refl m
      · exact fades_of_connections rfl
      · refine Fades.trans (fades_of_connections ?_) (fades_close _ _)
        rfl

theorem receive_eq_of_not_ok {limit : Nat} {value : Poll (Except IoFault Bytes)}
    (receives : n.receive s limit = (value, m)) (fails : ∀ bytes, value ≠ .ready (.ok bytes)) :
    m = n := by
  simp only [receive] at receives
  split at receives
  · exact (Prod.mk.inj receives).2.symm
  · split at receives
    · exact absurd (Prod.mk.inj receives).1.symm (fails _)
    all_goals exact (Prod.mk.inj receives).2.symm

theorem send_eq_of_error {bytes : Bytes} {fault : IoFault}
    (sends : n.send s bytes = (.error fault, m)) : m = n := by
  simp only [send] at sends
  split at sends
  · exact (Prod.mk.inj sends).2.symm
  · split at sends
    · exact (Prod.mk.inj sends).2.symm
    · split at sends <;> cases (Prod.mk.inj sends).1

theorem send_cases {bytes : Bytes} (sends : n.send s bytes = (.ok (), m)) :
    ∃ peer, n.endpoint? s.opposite = some peer ∧ peer.ending = none ∧ peer.isOpen = true ∧
      (bytes = [] ∧ m = n ∨ bytes ≠ [] ∧
        m = n.modify s.opposite fun e => { e with inbox := e.inbox.push bytes }) := by
  simp only [send] at sends
  split at sends
  · cases sends
  next peer here =>
    split at sends
    · cases sends
    next open_ =>
      obtain ⟨unended, held⟩ : peer.ending = none ∧ peer.isOpen = true := by simpa using open_
      refine ⟨peer, here, unended, held, ?_⟩
      split at sends
      next nothing =>
        cases sends
        exact .inl ⟨List.isEmpty_iff.mp nothing, rfl⟩
      next some_ =>
        cases sends
        exact .inr ⟨by simpa using some_, rfl⟩

theorem fitting_prefix (n : Network) (s : Socket) (bytes : Bytes) : n.fitting s bytes <+: bytes := by
  simp only [fitting]
  split
  · exact List.prefix_rfl
  · exact List.take_prefix ..

/-- What is taken of an offer was sent, and an offer that is not taken changes nothing. -/
theorem offer_cases {bytes : Bytes} {value : Poll (Except IoFault Nat)}
    (offers : n.offer s bytes = (value, m)) :
    (∃ fits, fits <+: bytes ∧ value = .ready (.ok fits.length) ∧ n.send s fits = (.ok (), m)) ∨
      m = n ∧ ∀ accepted, value ≠ .ready (.ok accepted) := by
  simp only [offer] at offers
  split at offers
  next fault k sent =>
    cases offers
    exact .inr ⟨send_eq_of_error sent, fun _ taken => by cases taken⟩
  next k sent =>
    split at offers
    next full =>
      cases offers
      obtain ⟨nothing, _⟩ := (Bool.and_eq_true ..).mp full
      obtain ⟨_, _, _, _, ⟨_, same⟩ | ⟨some_, _⟩⟩ := send_cases sent
      · exact .inr ⟨same, fun _ taken => by cases taken⟩
      · exact absurd (List.isEmpty_iff.mp nothing) some_
    next =>
      cases offers
      exact .inl ⟨_, n.fitting_prefix s bytes, rfl, sent⟩

theorem receive_cases {limit : Nat} {bytes : Bytes}
    (receives : n.receive s limit = (.ready (.ok bytes), m)) :
    (bytes = [] ∧ m = n ∧ ∃ e, n.endpoint? s = some e ∧ e.inbox.octets = [] ∧
        e.ending = some .finished) ∨
      ∃ e, n.endpoint? s = some e ∧ e.inbox.octets ≠ [] ∧ bytes = e.inbox.octets.take limit ∧
        m = n.modify s ({ · with inbox := { front := e.inbox.octets.drop limit } }) := by
  simp only [receive] at receives
  split at receives
  · cases receives
  next e here =>
    split at receives
    next octet more waiting =>
      cases receives
      exact .inr ⟨e, here, by simp [waiting], by rw [waiting], by rw [waiting]⟩
    · cases receives
    next nothing ending =>
      cases receives
      exact .inl ⟨rfl, rfl, e, here, nothing, ending⟩
    · cases receives

end Network

/-! ## Ledgers of hosts -/

namespace Ledger

open Network

variable {b c d : Ledger} {n m k : Network} {s t : Socket}

/-- A ledger is that of a host. -/
structure Records (b : Ledger) (n : Network) : Prop where
  ends (s : Socket) (e : Endpoint) :
    n.endpoint? s = some e → e.Accounts (b.received s) (b.sent s.opposite)
  fresh (s : Socket) : n.size ≤ s.connection → b.sent s = [] ∧ b.received s = []

/-- All that will ever be sent to an end was received there. -/
def Drained (b : Ledger) (n : Network) (s : Socket) : Prop :=
  b.received s = b.sent s.opposite ∧ ∃ e, n.endpoint? s = some e ∧ e.ending.isSome = true

theorem Records.received_prefix (h : b.Records n) (s : Socket) : b.received s <+: b.sent s.opposite := by
  by_cases there : s.connection < n.size
  · obtain ⟨e, here⟩ := exists_endpoint? there
    exact (List.prefix_append _ _).trans (h.ends s e here).fits
  · rw [(h.fresh s (Nat.le_of_not_lt there)).2]
    exact List.nil_prefix

/-- A ledger that was right stays so, and what was drained stays so. -/
structure Conserves (b : Ledger) (n : Network) (c : Ledger) (m : Network) : Prop where
  records : b.Records n → c.Records m
  drained (s : Socket) : b.Records n → b.Drained n s → c.Drained m s

theorem Conserves.refl (b : Ledger) (n : Network) : b.Conserves n b n := ⟨id, fun _ _ => id⟩

theorem Conserves.trans (first : b.Conserves n c m) (second : c.Conserves m d k) :
    b.Conserves n d k :=
  ⟨fun h => second.records (first.records h),
    fun s h drained => second.drained s (first.records h) (first.drained s h drained)⟩

theorem conserves_fades (b : Ledger) (fades : n.Fades m) : b.Conserves n b m where
  records h := by
    refine ⟨fun s f there => ?_, fun s beyond => h.fresh s (fades.size ▸ beyond)⟩
    obtain ⟨e, here⟩ := exists_endpoint? (fades.size ▸ lt_size_of_endpoint? there)
    obtain ⟨g, same, later⟩ := fades.ends s e here
    obtain rfl := Option.some.inj (same.symm.trans there)
    exact (h.ends s e here).fades later
  drained s _ drained := by
    obtain ⟨all, e, here, ended⟩ := drained
    obtain ⟨f, there, later⟩ := fades.ends s e here
    exact ⟨all, f, there, later.ended ended⟩

/-- Nothing was ever sent over a connection that begins. -/
theorem conserves_connects {l : Nat} (b : Ledger) (connects : Connects n m l) :
    b.Conserves n b m where
  records h := by
    refine ⟨fun s e there => ?_, fun s beyond => h.fresh s ?_⟩
    · by_cases new : s.connection = n.size
      · obtain ⟨address, begun⟩ := connects.begun s.side
        rw [← new] at begun
        obtain rfl := Option.some.inj (begun.symm.trans there)
        rw [(h.fresh s (Nat.le_of_eq new.symm)).2, (h.fresh s.opposite (Nat.le_of_eq new.symm)).1]
        exact ⟨List.prefix_rfl, fun _ => rfl⟩
      · exact h.ends s e (connects.earlier s new ▸ there)
    · rw [connects.size] at beyond
      exact Nat.le_of_succ_le beyond
  drained s _ drained := by
    obtain ⟨all, e, here, ended⟩ := drained
    exact ⟨all, e, by rw [connects.earlier s (Nat.ne_of_lt (lt_size_of_endpoint? here)), here], ended⟩

theorem conserves_dial (b : Ledger) (n : Network) (address : SocketAddress) :
    b.Conserves n b (n.dial address).2 := by
  cases dialled : n.dial address with
  | mk result m =>
      rcases dial_cases dialled with ⟨_, _, _, rfl⟩ | ⟨failures, l, within, _, rfl⟩
      · exact conserves_fades b (fades_of_connections rfl)
      · exact conserves_connects b (connects_connect failures address within)

/-- What a send adds to the ledger. -/
theorem conserves_send {bytes : Bytes} (sends : n.send s bytes = (.ok (), m)) :
    b.Conserves n (b.send s bytes) m := by
  obtain ⟨peer, here, unended, held, ⟨rfl, rfl⟩ | ⟨some_, rfl⟩⟩ := send_cases sends
  · rw [send_nil]
    exact .refl b m
  constructor
  · intro h
    refine ⟨fun t f there => ?_, fun t beyond => ?_⟩
    · rw [endpoint?_modify] at there
      split at there
      next same =>
        subst same
        rw [here] at there
        obtain rfl := Option.some.inj there
        have accounts := h.ends s.opposite peer here
        rw [Socket.opposite_opposite] at accounts ⊢
        rw [sent_send_self]
        exact accounts.push held bytes
      next other =>
        rw [sent_send_of_ne _ _ fun eq => other (Socket.opposite_eq_iff.mp eq)]
        exact h.ends t f there
    · rw [size_modify] at beyond
      have ne : t ≠ s := by
        rintro rfl
        exact Nat.not_lt_of_le beyond (lt_size_of_endpoint? (s := t.opposite) here)
      rw [sent_send_of_ne _ _ ne]
      exact h.fresh t beyond
  · rintro t _ ⟨all, e, there, ended⟩
    have other : t ≠ s.opposite := by
      -- Nothing more is sent where the end is known.
      rintro rfl
      obtain rfl := Option.some.inj (here.symm.trans there)
      simp [unended] at ended
    refine ⟨?_, e, by rw [endpoint?_modify_of_ne _ _ other, there], ended⟩
    rw [sent_send_of_ne _ _ fun eq => other (Socket.opposite_eq_iff.mp eq)]
    exact all

/-- What a receive adds to the ledger. -/
theorem conserves_receive {limit : Nat} {bytes : Bytes}
    (receives : n.receive s limit = (.ready (.ok bytes), m)) :
    b.Conserves n (b.receive s bytes) m := by
  rcases receive_cases receives with ⟨rfl, rfl, _⟩ | ⟨e, here, waits, rfl, rfl⟩
  · rw [receive_nil]
    exact .refl b m
  constructor
  · intro h
    refine ⟨fun t f there => ?_, fun t beyond => ?_⟩
    · rw [endpoint?_modify] at there
      split at there
      next same =>
        subst same
        rw [here] at there
        obtain rfl := Option.some.inj there
        rw [received_receive_self]
        exact (h.ends t e here).take limit
      next other =>
        rw [received_receive_of_ne _ _ other]
        exact h.ends t f there
    · rw [size_modify] at beyond
      have ne : t ≠ s := by
        rintro rfl
        exact Nat.not_lt_of_le beyond (lt_size_of_endpoint? here)
      rw [received_receive_of_ne _ _ ne]
      exact h.fresh t beyond
  · rintro t h ⟨all, f, there, ended⟩
    have other : t ≠ s := by
      -- Where all was received nothing waits.
      rintro rfl
      obtain rfl := Option.some.inj (here.symm.trans there)
      have fits := (h.ends t e here).fits.length_le
      rw [← all, List.length_append] at fits
      exact waits (List.length_eq_zero_iff.mp (by omega))
    refine ⟨?_, f, by rw [endpoint?_modify_of_ne _ _ other, there], ended⟩
    rw [received_receive_of_ne _ _ other]
    exact all

/-- An end that nothing is received at, though it is held and something was asked for, is drained. -/
theorem Records.drained_of_receive {limit : Nat} (h : b.Records n)
    (receives : n.receive s limit = (.ready (.ok []), m)) (held : n.Holds s) (asked : 0 < limit) :
    b.Drained n s := by
  rcases receive_cases receives with ⟨_, _, e, here, nothing, ending⟩ | ⟨e, here, waits, eq, _⟩
  · have all := (h.ends s e here).whole (by simpa [Holds, here] using held)
    rw [nothing, List.append_nil] at all
    exact ⟨all, e, here, by simp [ending]⟩
  · rcases List.take_eq_nil_iff.mp eq.symm with none | empty
    · omega
    · exact absurd empty waits

end Ledger

end Wiretap
