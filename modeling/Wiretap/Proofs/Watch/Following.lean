import Mathlib.Algebra.GroupWithZero.Nat
import Mathlib.Order.Nat
import Wiretap.Proofs.Watch.Reloading
/-! # What a reloader makes of published settings

A reloader knows the relays of the settings that it applied last, and the inspector of those that it
installed one for last. That inspector is the installed one, and if the last settings were applied without
a fault it is theirs, but maybe with its path spelled as before. Since nothing but the last settings
matters, a reloader that lags behind and misses some ends up like one that has heard of all of them.
-/

namespace Wiretap

/-! ## Warnings -/

namespace Station

def warnings (s : Station) : Journal := s.journal.at [.warn]

theorem warnings_log (s : Station) (entry : Entry) :
    (s.log entry).warnings = s.warnings ++ Journal.at [.warn] [entry] := by
  simp [warnings, journal, log, Journal.at]

theorem warnings_inspect_of_chosen {s : Station} {choice : InspectorChoice}
    (chosen : s.current.inspector = choice.inspector) (e : Event) (delivered : Nat) :
    (s.inspect e delivered).station.warnings = s.warnings := by
  cases choice with
  | noop => simp only [inspect, run, chosen, InspectorChoice.inspector]
  | log n =>
      simp only [inspect, run, chosen, InspectorChoice.inspector, warnings_log]
      exact List.append_nil _
  | capture path =>
      simp only [inspect, run, chosen, InspectorChoice.inspector]
      split <;> rfl

end Station

/-! ## What applying settings does -/

namespace Reloader

variable {r : Reloader} {station : Station} {s : Settings} {a : Applied}

/-- What applying settings does, by what it ends with. -/
structure Answers (r : Reloader) (station : Station) (s : Settings) (a : Applied) : Prop where
  swaps : a.result = .ok true ↔
    ¬s.inspector.sameAs r.inspector ∧
      ∃ made, Inspector.build station.disk s.inspector = .ok made
  equal : a.result = .ok false ↔ s.inspector.sameAs r.inspector
  swapped : a.result = .ok true → a.reloader = .start s ∧
    a.station.current = ⟨s.inspector.inspector, station.calls.length⟩ ∧
    a.station.calls = station.calls ++ [0]
  kept : a.result ≠ .ok true →
    a.reloader = ⟨r.inspector, s.relays⟩ ∧ a.station = r.warned station s
  tried : ∀ fault, a.result = .error fault → ∀ later,
    (a.reloader.apply later s).result = .ok true ↔
      ∃ made, Inspector.build later.disk s.inspector = .ok made
  warns : a.station.warnings =
    station.warnings ++ if s.relays = r.relays then [] else [relaysEntry]

theorem warnings_warned (r : Reloader) (station : Station) (s : Settings) :
    (r.warned station s).warnings =
      station.warnings ++ if s.relays = r.relays then [] else [relaysEntry] := by
  unfold warned
  split
  · exact (List.append_nil _).symm
  · exact station.warnings_log relaysEntry

theorem Applies.swaps_iff (h : r.Applies station s a) : a.result = .ok true ↔
    ¬s.inspector.sameAs r.inspector ∧
      ∃ made, Inspector.build station.disk s.inspector = .ok made := by
  cases h with
  | same equal => simp [equal]
  | fails other unbuildable => simp [unbuildable]
  | installs other built => simp [other, built]

theorem Applies.answers (h : r.Applies station s a) : r.Answers station s a where
  swaps := h.swaps_iff
  equal := by
    cases h with
    | same equal => simp [equal]
    | fails other unbuildable => simp [other]
    | installs other built => simp [other]
  swapped swapped := by
    obtain ⟨_, calls, _⟩ := r.warned_eq station s
    cases h with
    | same | fails => cases swapped
    | installs other built => simp only [Station.install, Station.log, calls, and_self]
  kept kept := by
    cases h with
    | same | fails => exact ⟨rfl, rfl⟩
    | installs => exact absurd rfl kept
  tried fault failed later := by
    cases h with
    | same | installs => cases failed
    | fails other unbuildable =>
        rw [(apply_applies _ later s).swaps_iff]
        exact and_iff_right other
  warns := by
    rw [← warnings_warned]
    cases h with
    | same | fails => rfl
    | @installs disk other built =>
        simp only [Station.install, Station.warnings_log]
        exact (List.append_nil _).trans (List.append_nil _)

end Reloader

/-! ## A reloader in charge -/

/-- A reloader with the station that it is in charge of, and the settings that it has applied so far,
each with what came of it. -/
structure Tenure where
  reloader : Reloader
  station : Station
  applied : List (Settings × Except Failure Bool)

/-- What a reloader knows when it has applied some settings: the relays of the last ones, and the
inspector of the last ones that had another inspector installed. -/
def Reloader.after (initial : Settings) (applied : List (Settings × Except Failure Bool)) : Reloader :=
  applied.foldl
    (fun r (s, result) =>
      ⟨if result.toOption = some true then s.inspector else r.inspector, s.relays⟩)
    (.start initial)

theorem Reloader.after_concat (initial : Settings) (applied : List (Settings × Except Failure Bool))
    (s : Settings) (result : Except Failure Bool) :
    Reloader.after initial (applied ++ [(s, result)]) =
      ⟨if result.toOption = some true then s.inspector
        else (Reloader.after initial applied).inspector, s.relays⟩ := by
  simp only [Reloader.after, List.foldl_append, List.foldl]

namespace Tenure

/-- A reloader for a program that runs with some settings, and with the inspector of these. -/
def start (initial : Settings) (inspector : Inspector) (disk : Disk) (now : String) : Tenure :=
  ⟨.start initial, .start inspector disk now, []⟩

/-- What happens next: nobody but the reloader installs an inspector. -/
inductive Deed where
  | applies (s : Settings)
  | hears (received : Received Change)
  /-- A relay has a chunk inspected. -/
  | inspects (e : Event) (delivered : Nat)
  /-- Time passes, and others change the disk. -/
  | besides (disk : Disk) (now : String)

def Deed.settings? : Deed → Option Settings
  | .applies s | .hears (.message ⟨s, _⟩) => some s
  | .hears .empty | .hears (.lagged _) | .inspects .. | .besides .. => none

def applies (t : Tenure) (s : Settings) : Tenure :=
  let a := t.reloader.apply t.station s
  ⟨a.reloader, a.station, t.applied ++ [(s, a.result)]⟩

def log (t : Tenure) (entry : Entry) : Tenure := { t with station := t.station.log entry }

/-- The entry about settings that are going to be applied. -/
def applyingEntry (change : Change) : Entry :=
  .info .watcher s!"Applying configuration change from: {change.path}"

/-- The entry about changes that were missed. -/
def lagEntry (missed : Nat) : Entry :=
  .error .watcher s!"Error receiving configuration change: channel lagged by {missed}"

/-- The entry about settings that could not be applied. -/
def refusalEntry (fault : Failure) : Entry :=
  .error .watcher s!"Failed to apply configuration change: {fault.message}"

def act (t : Tenure) : Deed → Tenure
  | .applies s => t.applies s
  | .hears received =>
    let (reloader, station) := t.reloader.hear t.station received
    let applied := match received with
      | .message change => ((t.log (applyingEntry change)).applies change.settings).applied
      | .empty | .lagged _ => t.applied
    ⟨reloader, station, applied⟩
  | .inspects e delivered => { t with station := (t.station.inspect e delivered).station }
  | .besides disk now => { t with station := { t.station with disk, now } }

def run (t : Tenure) (deeds : List Deed) : Tenure := deeds.foldl act t

/-- How many times another inspector was installed. -/
def swaps (t : Tenure) : Nat := t.applied.countP (·.2.toOption == some true)

/-- The reloader knows what it applied, and its inspector is the installed one. -/
structure Sound (initial : Settings) (t : Tenure) : Prop where
  current : t.station.current = ⟨t.reloader.inspector.inspector, t.swaps⟩
  calls : t.station.calls.length = t.swaps + 1
  reloader : t.reloader = .after initial t.applied
  failed : ∀ s fault, (s, .error fault) ∈ t.applied →
    ∃ disk why, Inspector.build disk s.inspector = .error why
  agrees : ∀ last ∈ t.applied.getLast?, last.2.isOk = true →
    t.reloader.inspector.sameAs last.1.inspector

/-- What was applied last, if anything, was applied without a fault. -/
def EndsWell (t : Tenure) : Prop := ∀ last ∈ t.applied.getLast?, last.2.isOk = true

/-- Some settings are in effect: their relays are known, and their inspector, however the path of a
capture was spelled, is known and installed. -/
structure HasApplied (t : Tenure) (s : Settings) : Prop where
  relays : t.reloader.relays = s.relays
  inspector : t.reloader.inspector.sameAs s.inspector
  installed : t.station.current.inspector = t.reloader.inspector.inspector

variable {t : Tenure} {initial : Settings}

theorem HasApplied.builtFrom {s : Settings} (h : t.HasApplied s) :
    t.station.current.inspector.BuiltFrom s.inspector :=
  ⟨t.reloader.inspector, h.inspector, h.installed⟩

theorem Sound.log (h : t.Sound initial) (entry : Entry) : (t.log entry).Sound initial :=
  ⟨h.current, h.calls, h.reloader, h.failed, h.agrees⟩

theorem Sound.settles {s : Settings} {a : Applied} (h : t.Sound initial)
    (applies : t.reloader.Applies t.station s a) :
    Sound initial ⟨a.reloader, a.station, t.applied ++ [(s, a.result)]⟩ := by
  obtain ⟨current, calls, _⟩ := t.reloader.warned_eq t.station s
  have knows := Reloader.after_concat initial t.applied s
  rw [← h.reloader] at knows
  cases applies with
  | same equal =>
      refine ⟨?_, ?_, ?_, ?_, ?_⟩
      · simp [swaps, current, h.current, Except.toOption]
      · simp [swaps, calls, h.calls, Except.toOption]
      · simp [knows, Except.toOption]
      · simpa using h.failed
      · simpa using fun _ => InspectorChoice.sameAs_symm equal
  | fails other unbuildable =>
      refine ⟨?_, ?_, ?_, ?_, ?_⟩
      · simp [swaps, current, h.current, Except.toOption]
      · simp [swaps, calls, h.calls, Except.toOption]
      · simp [knows, Except.toOption]
      · intro u fault member
        rcases List.mem_append.mp member with before | last
        · exact h.failed u fault before
        · cases List.mem_singleton.mp last
          exact ⟨_, _, unbuildable⟩
      · simp [Except.isOk, Except.toBool]
  | installs other built =>
      refine ⟨?_, ?_, ?_, ?_, ?_⟩
      · simp [swaps, calls, h.calls, Except.toOption, Station.install, Station.log, Reloader.start]
      · simp [swaps, calls, h.calls, Except.toOption, Station.install, Station.log]
      · simp [knows, Except.toOption, Reloader.start]
      · simpa using h.failed
      · simp [Reloader.start]

theorem Sound.applies (h : t.Sound initial) (s : Settings) : (t.applies s).Sound initial :=
  h.settles (t.reloader.apply_applies t.station s)

/-- A change that is heard of is applied, with entries about that before and after. -/
theorem act_hears_message (t : Tenure) (change : Change) :
    let u := (t.log (applyingEntry change)).applies change.settings
    t.act (.hears (.message change)) = u ∨
      ∃ fault, t.act (.hears (.message change)) = u.log (refusalEntry fault) := by
  intro u
  simp only [act, Reloader.hear]
  split
  · exact .inl rfl
  · exact .inr ⟨_, rfl⟩

theorem Sound.act (h : t.Sound initial) (deed : Deed) : (t.act deed).Sound initial := by
  cases deed with
  | applies s => exact h.applies s
  | inspects e delivered =>
      obtain ⟨current, calls⟩ :=
        Station.inspect_of_chosen (congrArg Installed.inspector h.current) e delivered
      exact ⟨current.trans h.current, (congrArg _ calls).trans h.calls, h.reloader, h.failed, h.agrees⟩
  | besides disk now => exact ⟨h.current, h.calls, h.reloader, h.failed, h.agrees⟩
  | hears received =>
      cases received with
      | empty | lagged => exact ⟨h.current, h.calls, h.reloader, h.failed, h.agrees⟩
      | message change =>
          have applied := (h.log (applyingEntry change)).applies change.settings
          rcases t.act_hears_message change with same | ⟨fault, logged⟩
          · exact same ▸ applied
          · exact logged ▸ applied.log (refusalEntry fault)

theorem Sound.run (h : t.Sound initial) (deeds : List Deed) : (t.run deeds).Sound initial := by
  induction deeds generalizing t with
  | nil => exact h
  | cons deed deeds ih => exact ih (h.act deed)

theorem sound_start (initial : Settings) (disk : Disk) (now : String) :
    (start initial initial.inspector.inspector disk now).Sound initial :=
  ⟨rfl, rfl, rfl, fun _ _ member => absurd member List.not_mem_nil,
    fun _ last => absurd last (Option.not_mem_none _)⟩

/-- The reloader warns of other relays and of nothing else. -/
theorem warnings_act (h : t.Sound initial) (deed : Deed) :
    (t.act deed).station.warnings = t.station.warnings ++
      match deed.settings? with
      | some s => if s.relays = t.reloader.relays then [] else [Reloader.relaysEntry]
      | none => [] := by
  cases deed with
  | applies s => exact (t.reloader.apply_applies t.station s).answers.warns
  | inspects e delivered =>
      rw [Deed.settings?, List.append_nil]
      exact Station.warnings_inspect_of_chosen (congrArg Installed.inspector h.current) e delivered
  | besides disk now => exact (List.append_nil _).symm
  | hears received =>
      cases received with
      | empty => exact (List.append_nil _).symm
      | lagged missed => exact t.station.warnings_log (lagEntry missed)
      | message change =>
          have warns := (t.reloader.apply_applies (t.station.log (applyingEntry change))
            change.settings).answers.warns
          rw [Station.warnings_log, show Journal.at [.warn] [applyingEntry change] = [] from rfl,
            List.append_nil] at warns
          rcases t.act_hears_message change with same | ⟨fault, logged⟩
          · rw [same]
            exact warns
          · rw [logged]
            exact ((Station.warnings_log _ _).trans (List.append_nil _)).trans warns

end Tenure

/-! ## A reloader that follows a channel -/

/-- A reloader in charge that follows what is published on a channel. -/
structure Follower where
  channel : Broadcast Change
  receiver : Nat
  tenure : Tenure
  /-- How many changes were missed, each time that the reloader was told so. -/
  gaps : List Nat

namespace Follower

def start (tenure : Tenure) (earlier : List Change) : Follower :=
  ⟨⟨Watcher.channelCapacity, earlier⟩, earlier.length, tenure, []⟩

inductive Move where
  | publishes (change : Change)
  | hears
  | inspects (e : Event) (delivered : Nat)
  | besides (disk : Disk) (now : String)

def move (f : Follower) : Move → Follower
  | .publishes change => { f with channel := f.channel.send change }
  | .hears =>
    let (received, receiver) := f.channel.receive f.receiver
    let gaps := match received with
      | .lagged missed => f.gaps ++ [missed]
      | .empty | .message _ => f.gaps
    { f with receiver, tenure := f.tenure.act (.hears received), gaps }
  | .inspects e delivered => { f with tenure := f.tenure.act (.inspects e delivered) }
  | .besides disk now => { f with tenure := f.tenure.act (.besides disk now) }

def run (f : Follower) (moves : List Move) : Follower := moves.foldl move f

/-- The reloader hears of all that it can hear of. -/
def hearsAll (f : Follower) : Follower := f.run (.replicate (f.channel.sent.length + 1) .hears)

/-- The changes that were published since the reloader follows. -/
def published (earlier : List Change) (f : Follower) : List Change :=
  f.channel.sent.drop earlier.length

def heard (f : Follower) : List Settings := f.tenure.applied.map (·.1)

/-- The settings that were published last, or else those that the program began with. -/
def latest (initial : Settings) (earlier : List Change) (f : Follower) : Settings :=
  ((f.published earlier).getLast?.map (·.settings)).getD initial

/-- Whether the reloader has heard of all that it can hear of. -/
def IsCaughtUp (f : Follower) : Prop := f.receiver = f.channel.sent.length

/-- Where a reloader is that follows a channel. -/
structure Follows (earlier : List Change) (f : Follower) : Prop where
  capacity : f.channel.capacity = Watcher.channelCapacity
  within : f.receiver ≤ f.channel.sent.length
  /-- It heard of every change, or was told that it missed it. -/
  place : f.receiver = earlier.length + f.tenure.applied.length + f.gaps.sum
  heard : f.heard.Sublist (((f.channel.sent.take f.receiver).drop earlier.length).map (·.settings))
  /-- What it heard last came right before its place, unless it was moved on and there is more. -/
  last : f.receiver = earlier.length ∨ f.receiver < f.channel.sent.length ∨
    ∃ change result, f.channel.sent[f.receiver - 1]? = some change ∧
      f.tenure.applied.getLast? = some (change.settings, result)

variable {f : Follower} {earlier : List Change}

theorem Follows.oldest_lt (h : f.Follows earlier) (behind : f.receiver < f.channel.oldest) :
    f.channel.oldest < f.channel.sent.length := by
  simp only [Broadcast.oldest, h.capacity, Watcher.channelCapacity] at behind ⊢
  omega

theorem Follows.publishes (h : f.Follows earlier) (change : Change) :
    (f.move (.publishes change)).Follows earlier where
  capacity := h.capacity
  within := by
    simp only [move, Broadcast.send, List.length_append]
    exact Nat.le_add_right_of_le h.within
  place := h.place
  heard := by
    simp only [move, Broadcast.send, List.take_append_of_le_length h.within]
    exact h.heard
  last := by
    simp only [move, Broadcast.send, List.length_append, List.length_singleton]
    rcases h.last with first | more | ⟨heard, result, found, applied⟩
    · exact .inl first
    · exact .inr (.inl (by omega))
    · have within := (List.getElem?_eq_some_iff.mp found).1
      exact .inr (.inr ⟨heard, result, by rw [List.getElem?_append_left within, found], applied⟩)

theorem channel_move_hears (f : Follower) : (f.move .hears).channel = f.channel := rfl

/-- What the reloader hears next, by how far it is behind. -/
theorem move_hears (f : Follower) :
    (f.channel.sent.length ≤ f.receiver ∧ f.move .hears = f) ∨
    (f.receiver < f.channel.oldest ∧
      f.move .hears =
        { f with
          receiver := f.channel.oldest
          tenure := f.tenure.log (Tenure.lagEntry (f.channel.oldest - f.receiver))
          gaps := f.gaps ++ [f.channel.oldest - f.receiver] }) ∨
    ∃ change, f.channel.oldest ≤ f.receiver ∧ f.channel.sent[f.receiver]? = some change ∧
      f.move .hears =
        { f with
          receiver := f.receiver + 1
          tenure := f.tenure.act (.hears (.message change)) } := by
  have receives := f.channel.receive_receives f.receiver
  simp only [move]
  generalize f.channel.receive f.receiver = r at receives
  cases receives with
  | empty all => exact .inl ⟨all, rfl⟩
  | lagged behind => exact .inr (.inl ⟨behind, rfl⟩)
  | message kept next => exact .inr (.inr ⟨_, kept, next, rfl⟩)

theorem applied_act_message (t : Tenure) (change : Change) :
    ∃ result, (t.act (.hears (.message change))).applied = t.applied ++ [(change.settings, result)] :=
  ⟨_, rfl⟩

theorem Follows.hears (h : f.Follows earlier) : (f.move .hears).Follows earlier := by
  have within := h.within
  have place := h.place
  rcases f.move_hears with ⟨_, same⟩ | ⟨behind, lags⟩ | ⟨change, _, next, hears⟩
  · rwa [same]
  · have more := h.oldest_lt behind
    rw [lags]
    refine ⟨h.capacity, more.le, ?_, ?_, .inr (.inl more)⟩
    · simp only [Tenure.log, List.sum_append, List.sum_singleton]
      omega
    · have further : (f.channel.sent.take f.receiver).Sublist (f.channel.sent.take f.channel.oldest) :=
        List.take_sublist_take_left behind.le
      exact h.heard.trans ((further.drop _).map _)
  · obtain ⟨result, applied⟩ := applied_act_message f.tenure change
    have here := (List.getElem?_eq_some_iff.mp next).1
    rw [hears]
    refine ⟨h.capacity, here, ?_, ?_, .inr (.inr ⟨change, result, next, ?_⟩)⟩
    · simp only [applied, List.length_append, List.length_singleton]
      omega
    · have beyond : earlier.length ≤ (f.channel.sent.take f.receiver).length := by
        rw [List.length_take]
        omega
      simp only [Follower.heard, applied, List.map_append, List.take_add_one, next,
        List.drop_append_of_le_length beyond]
      exact h.heard.append (List.Sublist.refl _)
    · simp [applied]

theorem Follows.move (h : f.Follows earlier) (m : Move) : (f.move m).Follows earlier := by
  cases m with
  | inspects | besides => exact ⟨h.capacity, h.within, h.place, h.heard, h.last⟩
  | publishes change => exact h.publishes change
  | hears => exact h.hears

theorem Follows.run (h : f.Follows earlier) (moves : List Move) : (f.run moves).Follows earlier := by
  induction moves generalizing f with
  | nil => exact h
  | cons m moves ih => exact ih (h.move m)

theorem follows_start (t : Tenure) (fresh : t.applied = []) (earlier : List Change) :
    (start t earlier).Follows earlier where
  capacity := rfl
  within := Nat.le_refl _
  place := by simp [start, fresh]
  heard := by simp [Follower.heard, start, fresh]
  last := .inl rfl

/-- A reloader that is not behind by more than the channel keeps hears of one change after another. -/
theorem isCaughtUp_hears (n : Nat) (within : f.receiver ≤ f.channel.sent.length)
    (kept : f.channel.oldest ≤ f.receiver) (enough : f.channel.sent.length - f.receiver ≤ n) :
    (f.run (.replicate n .hears)).IsCaughtUp ∧
      (f.run (.replicate n .hears)).channel = f.channel := by
  induction n generalizing f with
  | zero => exact ⟨Nat.le_antisymm within (Nat.le_of_sub_eq_zero (Nat.le_zero.mp enough)), rfl⟩
  | succ n ih =>
      change (run (f.move .hears) _).IsCaughtUp ∧ (run (f.move .hears) _).channel = _
      rcases f.move_hears with ⟨all, same⟩ | ⟨behind, _⟩ | ⟨change, _, next, hears⟩
      · rw [same]
        exact ih within kept (by omega)
      · exact absurd behind (Nat.not_lt.mpr kept)
      · have here := (List.getElem?_eq_some_iff.mp next).1
        rw [hears]
        exact ih here (Nat.le_succ_of_le kept) (by simp only; omega)

theorem drain_of_empty {channel : Broadcast Change} {receiver : Nat} (r : Reloader) (station : Station)
    (n : Nat) (nothing : channel.receive receiver = (.empty, receiver)) :
    Reloader.drain channel n r station receiver = (r, station, receiver) := by
  cases n with
  | zero => rfl
  | succ n => simp only [Reloader.drain, nothing]

/-- Applying all that there is means to hear of one thing after another. -/
theorem drain_eq_hears (f : Follower) (n : Nat) :
    let g := f.run (.replicate n .hears)
    Reloader.drain f.channel n f.tenure.reloader f.tenure.station f.receiver =
      (g.tenure.reloader, g.tenure.station, g.receiver) := by
  induction n generalizing f with
  | zero => rfl
  | succ n ih =>
      have next := ih (f.move .hears)
      have receives := f.channel.receive_receives f.receiver
      change _ = ((run (f.move .hears) _).tenure.reloader, (run (f.move .hears) _).tenure.station,
        (run (f.move .hears) _).receiver)
      rw [← next]
      simp only [Reloader.drain, move]
      cases received : f.channel.receive f.receiver with
      | mk value receiver =>
          rw [received] at receives
          cases receives with
          | empty all => exact (drain_of_empty _ _ n received).symm
          | lagged | message => rfl

theorem Follows.catches_up (h : f.Follows earlier) :
    f.hearsAll.IsCaughtUp ∧ f.hearsAll.channel = f.channel ∧
      f.tenure.reloader.catchUp f.tenure.station f.channel f.receiver =
        (f.hearsAll.tenure.reloader, f.hearsAll.tenure.station, f.hearsAll.receiver) := by
  obtain ⟨within, kept, channel⟩ : (f.move .hears).receiver ≤ f.channel.sent.length ∧
      f.channel.oldest ≤ (f.move .hears).receiver ∧ (f.move .hears).channel = f.channel := by
    have oldest : f.channel.oldest ≤ f.channel.sent.length := Nat.sub_le _ _
    rcases f.move_hears with ⟨all, same⟩ | ⟨_, lags⟩ | ⟨change, kept, next, hears⟩
    · rw [same]
      exact ⟨h.within, oldest.trans all, rfl⟩
    · rw [lags]
      exact ⟨oldest, Nat.le_refl _, rfl⟩
    · rw [hears]
      exact ⟨(List.getElem?_eq_some_iff.mp next).1, Nat.le_succ_of_le kept, rfl⟩
  rw [← channel] at within kept
  obtain ⟨caughtUp, unchanged⟩ :=
    isCaughtUp_hears f.channel.sent.length within kept (by rw [channel]; exact Nat.sub_le _ _)
  exact ⟨caughtUp, unchanged.trans channel, f.drain_eq_hears _⟩

/-- A reloader that has missed some changes is told so once, and goes on with the oldest that is
kept. -/
theorem Follows.skips (h : f.Follows earlier) (behind : f.receiver < f.channel.oldest) :
    let g := f.move .hears
    g.gaps = f.gaps ++ [f.channel.oldest - f.receiver] ∧
      g.tenure = f.tenure.log (Tenure.lagEntry (f.channel.oldest - f.receiver)) ∧
      ∃ change, f.channel.sent[f.channel.oldest]? = some change ∧
        (g.move .hears).heard = f.heard ++ [change.settings] := by
  intro g
  rcases f.move_hears with ⟨all, _⟩ | ⟨_, lags⟩ | ⟨_, kept, _⟩
  · exact absurd behind (Nat.not_lt.mpr ((Nat.sub_le _ _).trans all))
  · have more := h.oldest_lt behind
    have channel : g.channel = f.channel := congrArg (·.channel) lags
    have place : g.receiver = f.channel.oldest := congrArg (·.receiver) lags
    have heard : g.heard = f.heard := congrArg (·.heard) lags
    refine ⟨congrArg (·.gaps) lags, congrArg (·.tenure) lags, ?_⟩
    rcases g.move_hears with ⟨all, _⟩ | ⟨still, _⟩ | ⟨change, _, next, hears⟩
    · rw [channel, place] at all
      omega
    · rw [channel, place] at still
      exact absurd still (Nat.lt_irrefl _)
    · rw [channel, place] at next
      obtain ⟨result, applied⟩ := applied_act_message g.tenure change
      refine ⟨change, next, ?_⟩
      rw [hears, ← heard]
      simp only [Follower.heard, applied, List.map_append, List.map_singleton]
  · exact absurd behind (Nat.not_lt.mpr kept)

theorem Follows.heard_last (h : f.Follows earlier) (caughtUp : f.IsCaughtUp) :
    f.heard.getLast? = (f.published earlier).getLast?.map (·.settings) := by
  have place := h.place
  have length : f.heard.length = f.tenure.applied.length := List.length_map _
  rw [published, List.getLast?_drop]
  split
  · have nothing : f.heard = [] := by
      rw [← List.length_eq_zero_iff]
      rw [IsCaughtUp] at caughtUp
      omega
    rw [nothing]
    rfl
  · rename_i some
    rw [IsCaughtUp] at caughtUp
    rcases h.last with first | more | ⟨change, result, found, applied⟩
    · omega
    · omega
    · rw [caughtUp, ← List.getLast?_eq_getElem?] at found
      simp only [Follower.heard, List.getLast?_map, applied, found, Option.map_some]

/-- When all was heard of, only what was published last matters. -/
theorem Follows.ends_latest (h : f.Follows earlier) (sound : f.tenure.Sound initial)
    (caughtUp : f.IsCaughtUp) :
    f.tenure.reloader.relays = (f.latest initial earlier).relays ∧
      ((∀ disk, (Inspector.build disk (f.latest initial earlier).inspector).isOk = true) →
        f.tenure.EndsWell) ∧
      (f.tenure.EndsWell → f.tenure.HasApplied (f.latest initial earlier)) := by
  have last := h.heard_last caughtUp
  have installed := congrArg Installed.inspector sound.current
  rw [latest, ← last, Follower.heard, List.getLast?_map]
  rcases List.eq_nil_or_concat f.tenure.applied with none | ⟨before, ⟨s, result⟩, some⟩
  · have knows : f.tenure.reloader = .start initial := by rw [sound.reloader, none]; rfl
    rw [none, knows]
    exact ⟨rfl, fun _ => by simp [Tenure.EndsWell, none],
      fun _ => ⟨by rw [knows]; rfl, by rw [knows]; exact InspectorChoice.sameAs_refl _, installed⟩⟩
  · rw [List.concat_eq_append] at some
    have relays : f.tenure.reloader.relays = s.relays := by
      rw [sound.reloader, some, Reloader.after_concat]
    have agrees := sound.agrees
    simp only [some, List.getLast?_concat, Option.mem_some_iff, forall_eq'] at agrees
    simp only [some, Tenure.EndsWell, List.getLast?_concat, Option.map_some, Option.getD_some,
      Option.mem_some_iff, forall_eq']
    refine ⟨relays, fun builds => ?_, fun well => ⟨relays, agrees well, installed⟩⟩
    cases result with
    | ok => rfl
    | error fault =>
        obtain ⟨disk, why, fails⟩ := sound.failed s fault (by simp [some])
        have built := builds disk
        rw [fails] at built
        cases built

theorem tenure_move (f : Follower) (m : Move) :
    (f.move m).tenure = f.tenure ∨ ∃ deed, (f.move m).tenure = f.tenure.act deed := by
  cases m with
  | publishes => exact .inl rfl
  | hears => exact .inr ⟨.hears (f.channel.receive f.receiver).1, rfl⟩
  | inspects e delivered => exact .inr ⟨.inspects e delivered, rfl⟩
  | besides disk now => exact .inr ⟨.besides disk now, rfl⟩

theorem tenure_run (f : Follower) (moves : List Move) :
    ∃ deeds, (f.run moves).tenure = f.tenure.run deeds := by
  induction moves generalizing f with
  | nil => exact ⟨[], rfl⟩
  | cons m moves ih =>
      obtain ⟨deeds, eq⟩ := ih (f.move m)
      rcases f.tenure_move m with same | ⟨deed, acts⟩
      · exact ⟨deeds, same ▸ eq⟩
      · exact ⟨deed :: deeds, eq.trans (congrArg (·.run deeds) acts)⟩

/-- What a reloader makes of published settings. The handle begins with the inspector of the settings
that the reloader begins with, and nobody else installs another one. -/
theorem tracks_published {initial : Settings} {inspector : Inspector} {disk opened : Disk}
    (built : Inspector.build disk initial.inspector = .ok (inspector, opened)) (now : String) :
    let begun := Tenure.start initial inspector opened now
    (∀ deeds,
      let t := begun.run deeds
      t.Sound initial ∧
      (∀ s, t.reloader.Answers t.station s (t.reloader.apply t.station s)) ∧
      ∀ deed, (t.act deed).station.warnings = t.station.warnings ++
        match deed.settings? with
        | some s => if s.relays = t.reloader.relays then [] else [Reloader.relaysEntry]
        | none => []) ∧
    (∀ earlier moves,
      let f := (start begun earlier).run moves
      let latest := f.latest initial earlier
      (∃ deeds, f.tenure = begun.run deeds) ∧ f.Follows earlier ∧
      (f.receiver < f.channel.oldest →
        let g := f.move .hears
        g.gaps = f.gaps ++ [f.channel.oldest - f.receiver] ∧
        g.tenure = f.tenure.log (Tenure.lagEntry (f.channel.oldest - f.receiver)) ∧
        ∃ change, f.channel.sent[f.channel.oldest]? = some change ∧
          (g.move .hears).heard = f.heard ++ [change.settings]) ∧
      f.hearsAll.IsCaughtUp ∧ f.hearsAll.channel = f.channel ∧
      f.tenure.reloader.catchUp f.tenure.station f.channel f.receiver =
        (f.hearsAll.tenure.reloader, f.hearsAll.tenure.station, f.hearsAll.receiver) ∧
      (f.IsCaughtUp →
        f.tenure.reloader.relays = latest.relays ∧
        ((∀ disk, (Inspector.build disk latest.inspector).isOk = true) → f.tenure.EndsWell) ∧
        (f.tenure.EndsWell → f.tenure.HasApplied latest) ∧
        ∀ others,
          let g := (start begun earlier).run others
          g.channel = f.channel → g.IsCaughtUp →
          g.tenure.reloader.relays = f.tenure.reloader.relays ∧
          (f.tenure.EndsWell → g.tenure.EndsWell →
            g.tenure.reloader.inspector.sameAs f.tenure.reloader.inspector ∧
            g.tenure.station.current.inspector.BuiltFrom f.tenure.reloader.inspector))) := by
  intro begun
  obtain rfl := Inspector.eq_of_build built
  have first : begun.Sound initial := Tenure.sound_start initial opened now
  have sound (earlier : List Change) (moves : List Move) :
      ((start begun earlier).run moves).tenure.Sound initial := by
    obtain ⟨deeds, eq⟩ := (start begun earlier).tenure_run moves
    exact eq ▸ first.run deeds
  have follows (earlier : List Change) (moves : List Move) :
      ((start begun earlier).run moves).Follows earlier :=
    (follows_start begun rfl earlier).run moves
  refine ⟨fun deeds => ?_, fun earlier moves => ?_⟩
  · have now := first.run deeds
    exact ⟨now, fun s => (Reloader.apply_applies _ _ s).answers, Tenure.warnings_act now⟩
  intro f latest
  have here : f.Follows earlier := follows earlier moves
  obtain ⟨caughtUp, channel, same⟩ := here.catches_up
  refine ⟨(start begun earlier).tenure_run moves, here, here.skips, caughtUp, channel, same,
    fun all => ?_⟩
  obtain ⟨relays, builds, well⟩ := here.ends_latest (sound earlier moves) all
  refine ⟨relays, builds, well, fun others => ?_⟩
  intro g sameChannel allToo
  obtain ⟨relaysToo, _, wellToo⟩ := (follows earlier others).ends_latest (sound earlier others) allToo
  have sameLatest : g.latest initial earlier = latest := by
    simp only [Follower.latest, published, sameChannel, latest]
  rw [sameLatest] at relaysToo wellToo
  refine ⟨relaysToo.trans relays.symm, fun ends endsToo => ?_⟩
  have knows := wellToo endsToo
  have same := InspectorChoice.sameAs_trans knows.inspector
    (InspectorChoice.sameAs_symm (well ends).inspector)
  exact ⟨same, _, same, knows.installed⟩

/-- A program that runs quietly hears of settings that log, after settings whose capture cannot be
opened. -/
theorem tracks_published_logging :
    let quiet : Settings := { Upkeep.logging "info" with inspector := .noop }
    let capturing : Settings := { Upkeep.logging "info" with inspector := .capture "d/f" }
    let moves : List Move :=
      [.publishes ⟨capturing, "r"⟩, .publishes ⟨Upkeep.logging "info", "r"⟩, .hears, .hears]
    ∃ f, f = (start (.start quiet .noop .blank "") []).run moves ∧ f.IsCaughtUp ∧
      f.tenure.HasApplied (Upkeep.logging "info") ∧
      f.tenure.station.current.inspector = .preview 64 := by
  intro quiet capturing moves
  obtain ⟨f, eq⟩ : ∃ f, f = (start (.start quiet .noop .blank "") []).run moves := ⟨_, rfl⟩
  have built : Inspector.build .blank quiet.inspector = .ok (.noop, .blank) := rfl
  obtain ⟨_, _, _, _, _, _, tracks⟩ := (tracks_published built "").2 [] moves
  rw [← eq] at tracks
  have published : f.channel.sent = [⟨capturing, "r"⟩, ⟨Upkeep.logging "info", "r"⟩] := by
    simp only [eq, moves, run, List.foldl, channel_move_hears]
    rfl
  have place : f.receiver = 2 := by
    simp [eq, moves, run, move, start, Broadcast.receive, Broadcast.send, Broadcast.oldest,
      Watcher.channelCapacity]
  have latest : f.latest quiet [] = Upkeep.logging "info" := by
    rw [Follower.latest, Follower.published, published]
    rfl
  have caughtUp : f.IsCaughtUp := by
    rw [IsCaughtUp, place, published]
    rfl
  obtain ⟨_, builds, well, _⟩ := tracks caughtUp
  rw [latest] at builds well
  have applied := well (builds fun _ => rfl)
  exact ⟨f, eq, caughtUp, applied, applied.builtFrom.eq_of_log⟩

end Follower

end Wiretap
