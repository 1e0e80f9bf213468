import Wiretap.Proofs.Watch.Following
import Wiretap.Proofs.Watch.Publishing
/-! # A watch and who follows it

A watch of the settings file together with a reloader that follows what is published there. It is what
keeps a program up to date, with a record of what the reloader has applied. However updates take their
steps, each happening publishes one change at most; so the reloader follows a channel as any other.
-/

namespace Wiretap

theorem Vigil.channel_move (v : Vigil) (h : Happening) :
    (v.move h).watcher.channel = v.watcher.channel ∨
      ∃ change, (v.move h).watcher.channel = v.watcher.channel.send change := by
  cases h with
  | disk | begins | subscribes | unsubscribes => exact .inl rfl
  | report paths kind =>
      rcases move_isWhole (v := v) (h := .report paths kind) rfl with keeps | ⟨s, publishes, _⟩
      · exact .inl keeps.channel
      · exact .inr ⟨_, publishes.channel⟩
  | reload =>
      rcases move_isWhole (v := v) (h := .reload) rfl with keeps | ⟨s, publishes, _⟩
      · exact .inl keeps.channel
      · exact .inr ⟨_, publishes.channel⟩
  | advances index =>
      simp only [move]
      cases v.updates[index]? with
      | none => exact .inl rfl
      | some u =>
          cases u with
          | loading cause => exact .inl (v.watcher.advance_loading cause).2.1
          | storing | finished => exact .inl rfl
          | sending s => exact .inr ⟨_, rfl⟩

theorem Vigil.capacity_run (v : Vigil) (happenings : List Happening) :
    (v.run happenings).watcher.channel.capacity = v.watcher.channel.capacity := by
  induction happenings generalizing v with
  | nil => rfl
  | cons h rest ih =>
      refine (ih (v.move h)).trans ?_
      rcases v.channel_move h with same | ⟨change, sent⟩
      · rw [same]
      · rw [sent]
        rfl

/-- Whenever the file is loaded, what it says is valid. -/
def Vigil.LoadsWell : Vigil → List Happening → Prop
  | _, [] => True
  | v, h :: rest =>
    (v.loads h = true → ∃ s, Settings.load v.watcher.disk v.watcher.path = .ok s) ∧
      LoadsWell (v.move h) rest

theorem Follower.latest_eq_of_last {f : Follower} {earlier : List Change} (initial : Settings)
    {s : Settings} (some : f.published earlier ≠ [])
    (last : ∀ change ∈ f.channel.sent.getLast?, change.settings = s) : f.latest initial earlier = s := by
  obtain ⟨change, isLast⟩ : ∃ change, (f.published earlier).getLast? = .some change :=
    ⟨_, List.getLast?_eq_some_getLast some⟩
  have newest := isLast
  rw [published, List.getLast?_drop] at newest
  split at newest
  · cases newest
  · rw [latest, isLast]
    exact last change newest

/-- The happening at the watch in a move, if it is one. -/
def Upkeep.Move.happening? : Move → Option Vigil.Happening
  | .watches h => some h
  | .hears | .inspects .. | .besides .. => none

/-- A watch with a reloader that follows it. -/
structure Procession where
  vigil : Vigil
  follower : Follower

namespace Procession

def start (v : Vigil) (tenure : Tenure) : Procession :=
  ⟨v.move .subscribes, ⟨v.watcher.channel, v.watcher.channel.subscribe, tenure, []⟩⟩

def move (p : Procession) : Upkeep.Move → Procession
  | .watches h =>
    let vigil := p.vigil.move h
    ⟨vigil, { p.follower with channel := vigil.watcher.channel }⟩
  | .hears => { p with follower := p.follower.move .hears }
  | .inspects e delivered => { p with follower := p.follower.move (.inspects e delivered) }
  | .besides disk now => { p with follower := p.follower.move (.besides disk now) }

def run (p : Procession) (moves : List Upkeep.Move) : Procession := moves.foldl move p

def upkeep (p : Procession) : Upkeep :=
  ⟨p.vigil, p.follower.tenure.reloader, p.follower.receiver, p.follower.tenure.station⟩

/-- The reloader follows what the watch publishes, since so many changes were published. -/
structure Keeps (earlier : List Change) (initial : Settings) (p : Procession) : Prop where
  channel : p.follower.channel = p.vigil.watcher.channel
  follows : p.follower.Follows earlier
  sound : p.follower.tenure.Sound initial

variable {p : Procession} {earlier : List Change} {initial : Settings}

theorem Keeps.upkeep_move (h : p.Keeps earlier initial) (m : Upkeep.Move) :
    (p.move m).upkeep = p.upkeep.move m := by
  cases m with
  | watches | inspects | besides => rfl
  | hears =>
      simp only [upkeep, move, Follower.move, Upkeep.move, h.channel]
      rfl

theorem Keeps.move (h : p.Keeps earlier initial) (m : Upkeep.Move) :
    (p.move m).Keeps earlier initial := by
  cases m with
  | watches happening =>
      refine ⟨rfl, ?_, h.sound⟩
      simp only [Procession.move]
      rcases p.vigil.channel_move happening with same | ⟨change, sent⟩
      · rw [same, ← h.channel]
        exact h.follows
      · rw [sent, ← h.channel]
        exact h.follows.publishes change
  | hears =>
      exact ⟨h.channel, h.follows.move .hears,
        h.sound.act (.hears (p.follower.channel.receive p.follower.receiver).1)⟩
  | inspects e delivered =>
      exact ⟨h.channel, h.follows.move (.inspects e delivered), h.sound.act (.inspects e delivered)⟩
  | besides disk now =>
      exact ⟨h.channel, h.follows.move (.besides disk now), h.sound.act (.besides disk now)⟩

theorem Keeps.run (h : p.Keeps earlier initial) (moves : List Upkeep.Move) :
    (p.run moves).Keeps earlier initial ∧ (p.run moves).upkeep = p.upkeep.run moves := by
  induction moves generalizing p with
  | nil => exact ⟨h, rfl⟩
  | cons m moves ih =>
      obtain ⟨keeps, same⟩ := ih (h.move m)
      exact ⟨keeps, same.trans (congrArg (·.run moves) (h.upkeep_move m))⟩

theorem vigil_run (p : Procession) (moves : List Upkeep.Move) :
    (p.run moves).vigil = p.vigil.run (moves.filterMap (·.happening?)) := by
  induction moves generalizing p with
  | nil => rfl
  | cons m moves ih =>
      refine (ih (p.move m)).trans ?_
      cases m with
      | watches | hears | inspects | besides => rfl

/-- Whoever takes up the installed inspector's place begins to follow. -/
theorem keeps_start {v : Vigil} (kept : v.watcher.channel.capacity = Watcher.channelCapacity)
    (initial : Settings) (disk : Disk) (now : String) :
    (start v (.start initial initial.inspector.inspector disk now)).Keeps v.watcher.channel.sent
      initial := by
  have begins : (start v (.start initial initial.inspector.inspector disk now)).follower =
      .start (.start initial initial.inspector.inspector disk now) v.watcher.channel.sent := by
    rw [start, Follower.start, ← kept]
    rfl
  refine ⟨rfl, ?_, Tenure.sound_start initial disk now⟩
  rw [begins]
  exact Follower.follows_start _ rfl _

theorem follower_hears (p : Procession) (n : Nat) :
    (p.run (.replicate n .hears)).follower = p.follower.run (.replicate n .hears) := by
  induction n generalizing p with
  | zero => rfl
  | succ n ih => exact ih (p.move .hears)

/-- A reloader that has missed nothing hears of one change after another. -/
theorem Keeps.isCaughtUp_hears (h : p.Keeps earlier initial) {n : Nat}
    (kept : p.follower.channel.oldest ≤ p.follower.receiver)
    (enough : p.follower.channel.sent.length - p.follower.receiver ≤ n) :
    (p.run (.replicate n .hears)).follower.IsCaughtUp := by
  rw [follower_hears]
  exact (Follower.isCaughtUp_hears n h.follows.within kept enough).1

/-- A reloader that has heard of all, the last of it without a fault, has applied what was published
last. -/
theorem Keeps.hasApplied (h : p.Keeps earlier initial) (caughtUp : p.follower.IsCaughtUp)
    (well : p.follower.tenure.EndsWell) :
    p.follower.tenure.HasApplied (p.follower.latest initial earlier) :=
  (h.follows.ends_latest h.sound caughtUp).2.2 well

end Procession

end Wiretap
