import Wiretap.Proofs.Net.Holders
/-! # Whose is what on a shared host

What others got on a host is known to themselves only. The rest of what is held, and does not wait
to be accepted, is ours. Each call is described by what becomes ours with it and what ceases to be.
-/

namespace Wiretap

namespace Network

variable {n m : Network} {s : Socket} {l : Nat} {theirs : List Socket} {theirDoors : List Nat}

/-- An end waits to be accepted. -/
def Waits (n : Network) (s : Socket) : Prop := s.side = .accepted ∧ ∃ l, s.connection ∈ n.queue l

/-- An end is held by us. -/
def Ours (n : Network) (theirs : List Socket) (s : Socket) : Prop :=
  n.Holds s ∧ s ∉ theirs ∧ ¬ n.Waits s

def OurDoor (n : Network) (theirDoors : List Nat) (l : Nat) : Prop := n.Listens l ∧ l ∉ theirDoors

/-- Nothing is shared but the host: others only got what there is, and nobody got what waits. -/
structure Shared (n : Network) (theirs : List Socket) (theirDoors : List Nat) : Prop where
  known : ∀ s ∈ theirs, s.connection < n.size
  knownDoors : ∀ l ∈ theirDoors, l < n.doors
  held : ∀ s, n.Waits s → n.Holds s
  unowned : ∀ s, n.Waits s → s ∉ theirs
  apart : ∀ l k c, c ∈ n.queue l → c ∈ n.queue k → l = k
  nodup : ∀ l, (n.queue l).Nodup

theorem Shared.mem_queue_lt (h : n.Shared theirs theirDoors) {c : Nat} (queued : c ∈ n.queue l) :
    c < n.size :=
  (h.held ⟨c, .accepted⟩ ⟨rfl, l, queued⟩).lt_size

theorem ours_append {x : Socket} : n.Ours (theirs ++ [x]) s ↔ n.Ours theirs s ∧ s ≠ x := by
  simp only [Ours, List.mem_append, List.mem_singleton, not_or]
  grind

theorem ourDoor_append {x : Nat} : n.OurDoor (theirDoors ++ [x]) l ↔ n.OurDoor theirDoors l ∧ l ≠ x := by
  simp only [OurDoor, List.mem_append, List.mem_singleton, not_or]
  grind

theorem Shared.give (h : n.Shared theirs theirDoors) {x : Socket} (there : x.connection < n.size)
    (accepted : ¬ n.Waits x) : n.Shared (theirs ++ [x]) theirDoors where
  known := by
    intro s member
    rcases List.mem_append.mp member with earlier | new
    · exact h.known s earlier
    · exact List.mem_singleton.mp new ▸ there
  knownDoors := h.knownDoors
  held := h.held
  unowned := by
    intro s waits member
    rcases List.mem_append.mp member with earlier | new
    · exact h.unowned s waits earlier
    · exact accepted (List.mem_singleton.mp new ▸ waits)
  apart := h.apart
  nodup := h.nodup

theorem Shared.giveDoor (h : n.Shared theirs theirDoors) {x : Nat} (there : x < n.doors) :
    n.Shared theirs (theirDoors ++ [x]) where
  known := h.known
  knownDoors := by
    intro l member
    rcases List.mem_append.mp member with earlier | new
    · exact h.knownDoors l earlier
    · exact List.mem_singleton.mp new ▸ there
  held := h.held
  unowned := h.unowned
  apart := h.apart
  nodup := h.nodup

/-! ## Giving up -/

variable {gone : Socket → Prop}

theorem Closing.waits (h : Closing gone n m) : m.Waits s ↔ n.Waits s := by
  simp only [Waits, h.queue]

theorem Closing.ours (h : Closing gone n m) : m.Ours theirs s ↔ n.Ours theirs s ∧ ¬ gone s := by
  simp only [Ours, h.holds, h.waits]
  grind

theorem Closing.ourDoor (h : Closing gone n m) : m.OurDoor theirDoors l ↔ n.OurDoor theirDoors l := by
  simp only [OurDoor, h.listens]

theorem Closing.shared (h : Closing gone n m) (shared : n.Shared theirs theirDoors)
    (spared : ∀ s, gone s → ¬ n.Waits s) : m.Shared theirs theirDoors where
  known := by simpa only [h.size] using shared.known
  knownDoors := by simpa only [h.doors] using shared.knownDoors
  held s waits := by
    rw [h.waits] at waits
    exact (h.holds s).mpr ⟨shared.held s waits, fun given => spared s given waits⟩
  unowned s waits := shared.unowned s (h.waits.mp waits)
  apart := by simpa only [h.queue] using shared.apart
  nodup := by simpa only [h.queue] using shared.nodup

/-! ## Listening -/

theorem Opens.waits (h : Opens n m) : m.Waits s ↔ n.Waits s := by simp only [Waits, h.queue]

theorem Opens.ours (h : Opens n m) : m.Ours theirs s ↔ n.Ours theirs s := by
  simp only [Ours, h.holds, h.waits]

theorem Opens.ourDoor (h : Opens n m) (shared : n.Shared theirs theirDoors) :
    m.OurDoor theirDoors l ↔ n.OurDoor theirDoors l ∨ l = n.doors := by
  have fresh : n.doors ∉ theirDoors := fun member => Nat.lt_irrefl _ (shared.knownDoors _ member)
  simp only [OurDoor, h.listens]
  grind

theorem Opens.shared (h : Opens n m) (shared : n.Shared theirs theirDoors) :
    m.Shared theirs theirDoors where
  known := by simpa only [h.size] using shared.known
  knownDoors l member := by
    rw [h.doors]
    exact Nat.lt_succ_of_lt (shared.knownDoors l member)
  held s waits := (h.holds s).mpr (shared.held s (h.waits.mp waits))
  unowned s waits := shared.unowned s (h.waits.mp waits)
  apart := by simpa only [h.queue] using shared.apart
  nodup := by simpa only [h.queue] using shared.nodup

/-! ## Dialling -/

theorem Connects.mem_queue (h : Connects n m l) {c k : Nat} :
    c ∈ m.queue k ↔ c ∈ n.queue k ∨ k = l ∧ c = n.size := by
  rw [h.queue]
  split
  next same => simp [same]
  next other => simp [other]

theorem Connects.waits (h : Connects n m l) :
    m.Waits s ↔ n.Waits s ∨ s = ⟨n.size, .accepted⟩ := by
  obtain ⟨c, side⟩ := s
  simp only [Waits, h.mem_queue, Socket.mk.injEq]
  grind

theorem Connects.ours (h : Connects n m l) (shared : n.Shared theirs theirDoors) :
    m.Ours theirs s ↔ n.Ours theirs s ∨ s = ⟨n.size, .dialled⟩ := by
  obtain ⟨c, side⟩ := s
  have fresh (side : Side) : ⟨n.size, side⟩ ∉ theirs :=
    fun member => Nat.lt_irrefl _ (shared.known _ member)
  simp only [Ours, h.holds, h.waits, Socket.mk.injEq]
  constructor
  · rintro ⟨held | rfl, foreign, waiting⟩
    · exact .inl ⟨held, foreign, fun waits => waiting (.inl waits)⟩
    · cases side with
      | dialled => exact .inr ⟨rfl, rfl⟩
      | accepted => exact absurd (.inr ⟨rfl, rfl⟩) waiting
  · rintro (⟨held, foreign, waiting⟩ | ⟨rfl, rfl⟩)
    · refine ⟨.inl held, foreign, ?_⟩
      rintro (waits | ⟨rfl, _⟩)
      · exact waiting waits
      · exact Nat.lt_irrefl _ held.lt_size
    · refine ⟨.inr rfl, fresh _, ?_⟩
      rintro (⟨accepted, _⟩ | ⟨_, accepted⟩) <;> cases accepted

theorem Connects.ourDoor (h : Connects n m l) {k : Nat} :
    m.OurDoor theirDoors k ↔ n.OurDoor theirDoors k := by
  simp only [OurDoor, h.listens]

theorem Connects.shared (h : Connects n m l) (shared : n.Shared theirs theirDoors) :
    m.Shared theirs theirDoors where
  known s member := by
    rw [h.size]
    exact Nat.lt_succ_of_lt (shared.known s member)
  knownDoors := by simpa only [h.doors] using shared.knownDoors
  held s waits := by
    rcases h.waits.mp waits with earlier | rfl
    · exact (h.holds s).mpr (.inl (shared.held s earlier))
    · exact (h.holds _).mpr (.inr rfl)
  unowned s waits := by
    rcases h.waits.mp waits with earlier | rfl
    · exact shared.unowned s earlier
    · exact fun member => Nat.lt_irrefl _ (shared.known _ member)
  apart a b c first second := by
    have below {k : Nat} (queued : c ∈ n.queue k) : c < n.size := shared.mem_queue_lt queued
    rcases h.mem_queue.mp first with here | ⟨rfl, rfl⟩ <;>
      rcases h.mem_queue.mp second with there | ⟨rfl, same⟩
    · exact shared.apart a b c here there
    · exact absurd (below here) (same ▸ Nat.lt_irrefl _)
    · exact absurd (below there) (Nat.lt_irrefl _)
    · rfl
  nodup k := by
    rw [h.queue]
    split
    · refine List.nodup_append.mpr ⟨shared.nodup k, by simp, ?_⟩
      intro a queued b new
      rw [List.mem_singleton.mp new]
      exact Nat.ne_of_lt (shared.mem_queue_lt queued)
    · exact shared.nodup k

/-! ## Accepting -/

variable {c : Nat} {rest : List Nat}

theorem Leaves.waits (h : Leaves n m l rest) (queued : n.queue l = c :: rest)
    (shared : n.Shared theirs theirDoors) : m.Waits s ↔ n.Waits s ∧ s ≠ ⟨c, .accepted⟩ := by
  obtain ⟨d, side⟩ := s
  have nodup := shared.nodup l
  rw [queued, List.nodup_cons] at nodup
  have first : c ∈ n.queue l := queued ▸ List.mem_cons_self
  simp only [Waits, h.queue, ne_eq, Socket.mk.injEq]
  constructor
  · rintro ⟨rfl, k, member⟩
    split at member
    next same =>
      refine ⟨⟨rfl, l, queued ▸ List.mem_cons_of_mem _ member⟩, ?_⟩
      rintro ⟨rfl, _⟩
      exact nodup.1 member
    next other =>
      refine ⟨⟨rfl, k, member⟩, ?_⟩
      rintro ⟨rfl, _⟩
      exact other (shared.apart k l d member first)
  · rintro ⟨⟨rfl, k, member⟩, other⟩
    refine ⟨rfl, k, ?_⟩
    split
    next same =>
      rw [same, queued] at member
      exact (List.mem_cons.mp member).resolve_left fun eq => other ⟨eq, rfl⟩
    next => exact member

theorem Leaves.ours (h : Leaves n m l rest) (queued : n.queue l = c :: rest)
    (shared : n.Shared theirs theirDoors) :
    m.Ours theirs s ↔ n.Ours theirs s ∨ s = ⟨c, .accepted⟩ := by
  have waited : n.Waits ⟨c, .accepted⟩ := ⟨rfl, l, queued ▸ List.mem_cons_self⟩
  have held := shared.held _ waited
  have unowned := shared.unowned _ waited
  simp only [Ours, h.holds, h.waits queued shared]
  grind

theorem Leaves.ourDoor (h : Leaves n m l rest) {k : Nat} :
    m.OurDoor theirDoors k ↔ n.OurDoor theirDoors k := by
  simp only [OurDoor, h.listens]

theorem Leaves.shared (h : Leaves n m l rest) (queued : n.queue l = c :: rest)
    (shared : n.Shared theirs theirDoors) : m.Shared theirs theirDoors where
  known := by simpa only [h.size] using shared.known
  knownDoors := by simpa only [h.doors] using shared.knownDoors
  held s waits := (h.holds s).mpr (shared.held s ((h.waits queued shared).mp waits).1)
  unowned s waits := shared.unowned s ((h.waits queued shared).mp waits).1
  apart a b d first second := by
    have still {k : Nat} (member : d ∈ m.queue k) : d ∈ n.queue k := by
      rw [h.queue] at member
      split at member
      next same => exact same ▸ queued ▸ List.mem_cons_of_mem _ member
      next => exact member
    exact shared.apart a b d (still first) (still second)
  nodup k := by
    have nodup := shared.nodup l
    rw [queued, List.nodup_cons] at nodup
    rw [h.queue]
    split
    · exact nodup.2
    · exact shared.nodup k

/-! ## Not listening any more -/

theorem Shuts.waits (h : Shuts n m l) (shared : n.Shared theirs theirDoors) :
    m.Waits s ↔ n.Waits s ∧ s.connection ∉ n.queue l := by
  simp only [Waits, h.queue]
  constructor
  · rintro ⟨accepted, k, member⟩
    split at member
    · cases member
    next other =>
      exact ⟨⟨accepted, k, member⟩, fun here => other (shared.apart k l _ member here)⟩
  · rintro ⟨⟨accepted, k, member⟩, elsewhere⟩
    refine ⟨accepted, k, ?_⟩
    split
    next same => exact absurd (same ▸ member) elsewhere
    next => exact member

theorem Shuts.ours (h : Shuts n m l) (shared : n.Shared theirs theirDoors) :
    m.Ours theirs s ↔ n.Ours theirs s := by
  simp only [Ours, h.holds, h.waits shared]
  constructor
  · rintro ⟨⟨held, open_⟩, foreign, left⟩
    exact ⟨held, foreign, fun waits => left ⟨waits, fun queued => open_ ⟨waits.1, queued⟩⟩⟩
  · rintro ⟨held, foreign, waiting⟩
    exact ⟨⟨held, fun ⟨accepted, queued⟩ => waiting ⟨accepted, l, queued⟩⟩, foreign,
      fun left => waiting left.1⟩

theorem Shuts.ourDoor (h : Shuts n m l) {k : Nat} :
    m.OurDoor theirDoors k ↔ n.OurDoor theirDoors k ∧ k ≠ l := by
  simp only [OurDoor, h.listens]
  grind

theorem Shuts.shared (h : Shuts n m l) (shared : n.Shared theirs theirDoors) :
    m.Shared theirs theirDoors where
  known := by simpa only [h.size] using shared.known
  knownDoors := by simpa only [h.doors] using shared.knownDoors
  held s waits := by
    obtain ⟨waited, elsewhere⟩ := (h.waits shared).mp waits
    exact (h.holds s).mpr ⟨shared.held s waited, fun closed => elsewhere closed.2⟩
  unowned s waits := shared.unowned s ((h.waits shared).mp waits).1
  apart a b c first second := by
    have still {k : Nat} (member : c ∈ m.queue k) : c ∈ n.queue k := by
      rw [h.queue] at member
      split at member
      · cases member
      · exact member
    exact shared.apart a b c (still first) (still second)
  nodup k := by
    rw [h.queue]
    split
    · exact List.nodup_nil
    · exact shared.nodup k

/-! ## What others do -/

variable {theirs' : List Socket} {theirDoors' : List Nat}

/-- An end that others neither have nor can still get. -/
def Withheld (n : Network) (theirs : List Socket) (s : Socket) : Prop :=
  s.connection < n.size ∧ s ∉ theirs ∧ ¬ n.Waits s

def WithheldDoor (n : Network) (theirDoors : List Nat) (l : Nat) : Prop :=
  l < n.doors ∧ l ∉ theirDoors

theorem Ours.withheld (h : n.Ours theirs s) : n.Withheld theirs s := ⟨h.1.lt_size, h.2⟩

theorem OurDoor.withheld (h : n.OurDoor theirDoors l) : n.WithheldDoor theirDoors l :=
  ⟨h.1.lt_doors, h.2⟩

/-- What others could not get they still cannot get. -/
structure Withholds (n : Network) (theirs : List Socket) (theirDoors : List Nat) (m : Network)
    (theirs' : List Socket) (theirDoors' : List Nat) : Prop where
  socket (s : Socket) : n.Withheld theirs s → m.Withheld theirs' s
  door (l : Nat) : n.WithheldDoor theirDoors l → m.WithheldDoor theirDoors' l

theorem Withholds.refl (n : Network) (theirs : List Socket) (theirDoors : List Nat) :
    n.Withholds theirs theirDoors n theirs theirDoors :=
  ⟨fun _ => id, fun _ => id⟩

theorem Withholds.trans {k : Network} {theirs'' : List Socket} {theirDoors'' : List Nat}
    (first : n.Withholds theirs theirDoors m theirs' theirDoors')
    (second : m.Withholds theirs' theirDoors' k theirs'' theirDoors'') :
    n.Withholds theirs theirDoors k theirs'' theirDoors'' :=
  ⟨fun s kept => second.socket s (first.socket s kept),
    fun l kept => second.door l (first.door l kept)⟩

theorem Closing.withholds (h : Closing gone n m) (theirs : List Socket) (theirDoors : List Nat) :
    n.Withholds theirs theirDoors m theirs theirDoors where
  socket _ kept := ⟨h.size ▸ kept.1, kept.2.1, fun waits => kept.2.2 (h.waits.mp waits)⟩
  door _ kept := ⟨h.doors ▸ kept.1, kept.2⟩

theorem Opens.withholds (h : Opens n m) (theirs : List Socket) (theirDoors : List Nat) :
    n.Withholds theirs theirDoors m theirs theirDoors where
  socket _ kept := ⟨h.size ▸ kept.1, kept.2.1, fun waits => kept.2.2 (h.waits.mp waits)⟩
  door _ kept := ⟨h.doors ▸ Nat.lt_succ_of_lt kept.1, kept.2⟩

theorem Connects.withholds (h : Connects n m l) (theirs : List Socket) (theirDoors : List Nat) :
    n.Withholds theirs theirDoors m theirs theirDoors where
  socket s kept := by
    refine ⟨h.size ▸ Nat.lt_succ_of_lt kept.1, kept.2.1, fun waits => ?_⟩
    rcases h.waits.mp waits with earlier | rfl
    · exact kept.2.2 earlier
    · exact Nat.lt_irrefl _ kept.1
  door _ kept := ⟨h.doors ▸ kept.1, kept.2⟩

theorem Leaves.withholds (h : Leaves n m l rest) (queued : n.queue l = c :: rest)
    (shared : n.Shared theirs theirDoors) : n.Withholds theirs theirDoors m theirs theirDoors where
  socket _ kept :=
    ⟨h.size ▸ kept.1, kept.2.1, fun waits => kept.2.2 ((h.waits queued shared).mp waits).1⟩
  door _ kept := ⟨h.doors ▸ kept.1, kept.2⟩

theorem Shuts.withholds (h : Shuts n m l) (shared : n.Shared theirs theirDoors) :
    n.Withholds theirs theirDoors m theirs theirDoors where
  socket _ kept := ⟨h.size ▸ kept.1, kept.2.1, fun waits => kept.2.2 ((h.waits shared).mp waits).1⟩
  door _ kept := ⟨h.doors ▸ kept.1, kept.2⟩

/-- Others got an end besides. -/
theorem Withholds.give (h : n.Withholds theirs theirDoors m theirs theirDoors) {x : Socket}
    (free : ¬ n.Withheld theirs x) : n.Withholds theirs theirDoors m (theirs ++ [x]) theirDoors where
  socket s kept := by
    obtain ⟨there, foreign, waits⟩ := h.socket s kept
    refine ⟨there, fun member => ?_, waits⟩
    rcases List.mem_append.mp member with earlier | new
    · exact foreign earlier
    · exact free (List.mem_singleton.mp new ▸ kept)
  door := h.door

theorem Withholds.giveDoor (h : n.Withholds theirs theirDoors m theirs theirDoors) {x : Nat}
    (free : n.doors ≤ x) : n.Withholds theirs theirDoors m theirs (theirDoors ++ [x]) where
  socket := h.socket
  door l kept := by
    obtain ⟨there, foreign⟩ := h.door l kept
    refine ⟨there, fun member => ?_⟩
    rcases List.mem_append.mp member with earlier | new
    · exact foreign earlier
    · rw [List.mem_singleton.mp new] at kept
      exact Nat.not_lt_of_le free kept.1

/-- What is ours stays so, and nothing else becomes ours. -/
structure Undisturbed (n : Network) (theirs : List Socket) (theirDoors : List Nat) (m : Network)
    (theirs' : List Socket) (theirDoors' : List Nat) : Prop where
  shared : m.Shared theirs' theirDoors'
  size : n.size ≤ m.size
  doors : n.doors ≤ m.doors
  ours (s : Socket) : m.Ours theirs' s ↔ n.Ours theirs s
  ourDoor (l : Nat) : m.OurDoor theirDoors' l ↔ n.OurDoor theirDoors l
  queue (l c : Nat) : c ∈ m.queue l → c ∈ n.queue l ∨ n.size ≤ c
  withholds : n.Withholds theirs theirDoors m theirs' theirDoors'

theorem Alike.undisturbed (h : Alike n m) (shared : n.Shared theirs theirDoors) :
    n.Undisturbed theirs theirDoors m theirs theirDoors where
  shared := h.shared shared fun _ gone => gone.elim
  size := Nat.le_of_eq h.size.symm
  doors := Nat.le_of_eq h.doors.symm
  ours _ := h.ours.trans (and_iff_left id)
  ourDoor _ := h.ourDoor
  queue _ _ member := .inl (h.queue ▸ member)
  withholds := h.withholds theirs theirDoors

theorem Closing.undisturbed (h : Closing (· = s) n m) (shared : n.Shared theirs theirDoors)
    (member : s ∈ theirs) : n.Undisturbed theirs theirDoors m theirs theirDoors where
  shared := h.shared shared fun t gone waits => shared.unowned t waits (gone ▸ member)
  size := Nat.le_of_eq h.size.symm
  doors := Nat.le_of_eq h.doors.symm
  ours _ := h.ours.trans (and_iff_left_of_imp fun ours gone => ours.2.1 (gone ▸ member))
  ourDoor _ := h.ourDoor
  queue _ _ member := .inl (h.queue ▸ member)
  withholds := h.withholds theirs theirDoors

theorem Opens.undisturbed (h : Opens n m) (shared : n.Shared theirs theirDoors) :
    n.Undisturbed theirs theirDoors m theirs (theirDoors ++ [n.doors]) where
  shared := (h.shared shared).giveDoor (by rw [h.doors]; exact Nat.lt_succ_self _)
  size := Nat.le_of_eq h.size.symm
  doors := by rw [h.doors]; exact Nat.le_succ _
  ours _ := h.ours
  ourDoor l := by
    rw [ourDoor_append, h.ourDoor shared]
    have old (ours : n.OurDoor theirDoors l) : l ≠ n.doors := Nat.ne_of_lt ours.1.lt_doors
    grind
  queue l _ member := .inl (h.queue l ▸ member)
  withholds := (h.withholds theirs theirDoors).giveDoor (Nat.le_refl _)

theorem Connects.undisturbed (h : Connects n m l) (shared : n.Shared theirs theirDoors) :
    n.Undisturbed theirs theirDoors m (theirs ++ [⟨n.size, .dialled⟩]) theirDoors where
  shared := by
    refine (h.shared shared).give ?_ (fun waits => nomatch waits.1)
    rw [h.size]
    exact Nat.lt_succ_self _
  size := by rw [h.size]; exact Nat.le_succ _
  doors := Nat.le_of_eq h.doors.symm
  ours s := by
    rw [ours_append, h.ours shared]
    have old (ours : n.Ours theirs s) : s ≠ ⟨n.size, .dialled⟩ := by
      rintro rfl
      exact Nat.lt_irrefl _ ours.1.lt_size
    grind
  ourDoor _ := h.ourDoor
  queue _ _ member := (h.mem_queue.mp member).imp_right fun new => Nat.le_of_eq new.2.symm
  withholds := (h.withholds theirs theirDoors).give fun kept => Nat.lt_irrefl _ kept.1

theorem Leaves.mem_queue (h : Leaves n m l rest) (queued : n.queue l = c :: rest) {d k : Nat}
    (member : d ∈ m.queue k) : d ∈ n.queue k := by
  rw [h.queue] at member
  split at member
  next same => exact same ▸ queued ▸ List.mem_cons_of_mem _ member
  next => exact member

theorem Leaves.undisturbed (h : Leaves n m l rest) (queued : n.queue l = c :: rest)
    (shared : n.Shared theirs theirDoors) :
    n.Undisturbed theirs theirDoors m (theirs ++ [⟨c, .accepted⟩]) theirDoors := by
  have waited : n.Waits ⟨c, .accepted⟩ := ⟨rfl, l, queued ▸ List.mem_cons_self⟩
  constructor
  · refine (h.shared queued shared).give ?_ fun waits => ((h.waits queued shared).mp waits).2 rfl
    rw [h.size]
    exact (shared.held _ waited).lt_size
  · exact Nat.le_of_eq h.size.symm
  · exact Nat.le_of_eq h.doors.symm
  · intro s
    rw [ours_append, h.ours queued shared]
    have old (ours : n.Ours theirs s) : s ≠ ⟨c, .accepted⟩ := fun eq => ours.2.2 (eq ▸ waited)
    grind
  · exact fun _ => h.ourDoor
  · exact fun _ _ member => .inl (h.mem_queue queued member)
  · exact (h.withholds queued shared).give fun kept => kept.2.2 waited

theorem Shuts.undisturbed (h : Shuts n m l) (shared : n.Shared theirs theirDoors)
    (member : l ∈ theirDoors) : n.Undisturbed theirs theirDoors m theirs theirDoors where
  shared := h.shared shared
  size := Nat.le_of_eq h.size.symm
  doors := Nat.le_of_eq h.doors.symm
  ours _ := h.ours shared
  ourDoor _ := h.ourDoor.trans (and_iff_left_of_imp fun ours same => ours.2 (same ▸ member))
  queue k c queued := by
    rw [h.queue] at queued
    split at queued
    · cases queued
    · exact .inl queued
  withholds := h.withholds shared

/-- What was taken from those that wait is given up at once. -/
theorem Leaves.undisturbed_close {k : Network} (h : Leaves n m l rest) (queued : n.queue l = c :: rest)
    (shared : n.Shared theirs theirDoors) (closes : Closing (· = ⟨c, .accepted⟩) m k) :
    n.Undisturbed theirs theirDoors k theirs theirDoors := by
  have waited : n.Waits ⟨c, .accepted⟩ := ⟨rfl, l, queued ▸ List.mem_cons_self⟩
  constructor
  · exact closes.shared (h.shared queued shared) fun s gone waits =>
      ((h.waits queued shared).mp waits).2 gone
  · exact Nat.le_of_eq (closes.size.trans h.size).symm
  · exact Nat.le_of_eq (closes.doors.trans h.doors).symm
  · intro s
    rw [closes.ours, h.ours queued shared]
    have old (ours : n.Ours theirs s) : s ≠ ⟨c, .accepted⟩ := fun eq => ours.2.2 (eq ▸ waited)
    grind
  · exact fun _ => closes.ourDoor.trans h.ourDoor
  · exact fun _ _ member => .inl (h.mem_queue queued (closes.queue ▸ member))
  · exact (h.withholds queued shared).trans (closes.withholds theirs theirDoors)

end Network

end Wiretap
