import Wiretap.Proofs.Disk
import Wiretap.Proofs.Watch.Procession
import Mathlib.Data.List.Perm.Basic
/-! # Updates that overlap

Updates take their steps among those of others: each loads the file, stores what it loaded, and sends
it. Whatever is stored is sent, once, and what was stored last is current. But nothing keeps two updates
apart, so one may store last and another send last, and then what is current is not what was published
last. That is all that can go wrong: loads may fall anywhere.
-/

namespace Wiretap

/-- What one place of a list adds to those values of a function that there are. -/
theorem filterMap_set_perm (f : α → Option β) {l : List α} {i : Nat} {a : α} (here : l[i]? = some a) :
    ∃ others, (l.filterMap f).Perm ((f a).toList ++ others) ∧
      ∀ b, ((l.set i b).filterMap f).Perm ((f b).toList ++ others) := by
  obtain ⟨within, rfl⟩ := List.getElem?_eq_some_iff.mp here
  have first (b : α) : (b :: l.eraseIdx i).filterMap f =
      (f b).toList ++ (l.eraseIdx i).filterMap f := by
    cases found : f b <;> simp [found]
  refine ⟨(l.eraseIdx i).filterMap f, ?_, fun b => ?_⟩
  · exact first _ ▸ (List.getElem_cons_eraseIdx_perm within).symm.filterMap f
  · exact first b ▸ (List.set_perm_cons_eraseIdx within b).filterMap f

theorem mem_set_of_other {l : List α} {i : Nat} {a b : α} (member : a ∈ l) (there : l[i]? = some b)
    (other : a ≠ b) (c : α) : a ∈ l.set i c := by
  obtain ⟨j, here⟩ := List.mem_iff_getElem?.mp member
  have apart : i ≠ j := by
    rintro rfl
    exact other (Option.some.inj (here.symm.trans there))
  exact List.mem_of_getElem? ((List.getElem?_set_ne apart).trans here)

/-- The settings that an update is about to store. -/
def Update.storing? : Update → Option Settings
  | .storing s => some s
  | .loading _ | .sending _ | .finished _ => none

/-- The settings that an update is about to send. -/
def Update.sending? : Update → Option Settings
  | .sending s => some s
  | .loading _ | .storing _ | .finished _ => none

namespace Vigil

/-- No update has stored settings that it has not sent yet. -/
def IsSettled (v : Vigil) : Prop := ∀ s, .sending s ∉ v.updates

/-- The settings that are sent in what happens. -/
def sends (v : Vigil) (h : Happening) : List Settings :=
  ((v.move h).watcher.channel.sent.drop v.watcher.channel.sent.length).map (·.settings)

/-- The settings that are stored in what happens. Whoever is not interrupted sends what he stores. -/
def stores (v : Vigil) : Happening → List Settings
  | .advances index => (v.updates[index]?.bind Update.storing?).toList
  | h => v.sends h

/-- All settings that are stored, in that order. -/
def stored : Vigil → List Happening → List Settings
  | _, [] => []
  | v, h :: rest => v.stores h ++ stored (v.move h) rest

/-- All settings that were sent, in that order. -/
def published (v : Vigil) : List Settings := v.watcher.channel.sent.map (·.settings)

/-- The settings that were stored and are still to be sent. -/
def unsent (v : Vigil) : List Settings := v.updates.filterMap Update.sending?

/-- When the current settings are sent, nobody still has others to send. -/
def InTurn (v : Vigil) (h : Happening) : Prop :=
  ∀ change, (v.move h).watcher.channel = v.watcher.channel.send change →
    change.settings = (v.move h).watcher.current →
    ∀ s, .sending s ∈ (v.move h).updates → s = (v.move h).watcher.current

def SendsInTurn : Vigil → List Happening → Prop
  | _, [] => True
  | v, h :: rest => v.InTurn h ∧ SendsInTurn (v.move h) rest

/-- Settings are stored only while nobody has settings that are still to be sent. -/
def StoresApart : Vigil → List Happening → Prop
  | _, [] => True
  | v, h :: rest => (v.stores h ≠ [] → v.unsent = []) ∧ StoresApart (v.move h) rest

/-- Whoever stored last has still to send, or nobody has and what was sent last is current. -/
def IsConsistent (v : Vigil) : Prop :=
  .sending v.watcher.current ∈ v.updates ∨ v.IsSettled ∧ v.watcher.IsUpToDate

variable {v : Vigil}

theorem run_nil (v : Vigil) : v.run [] = v := rfl

theorem run_cons (v : Vigil) (h : Happening) (rest : List Happening) :
    v.run (h :: rest) = (v.move h).run rest :=
  rfl

theorem run_append (v : Vigil) (before more : List Happening) :
    v.run (before ++ more) = (v.run before).run more :=
  List.foldl_append

/-! ### What is stored and what is sent -/

theorem isSettled_iff : v.IsSettled ↔ v.unsent = [] := by
  simp only [IsSettled, unsent, List.filterMap_eq_nil_iff]
  constructor
  · intro settled u member
    cases u with
    | sending s => exact absurd member (settled s)
    | loading | storing | finished => rfl
  · intro none s member
    cases none _ member

theorem sends_of_keeps {h : Happening} (keeps : v.watcher.Keeps (v.move h).watcher) : v.sends h = [] := by
  simp [sends, keeps.channel]

theorem sends_of_publishes {h : Happening} {s : Settings}
    (publishes : v.watcher.Publishes s (v.move h).watcher) : v.sends h = [s] := by
  simp [sends, publishes.channel, Broadcast.send]

theorem current_move (v : Vigil) (h : Happening) :
    (v.move h).watcher.current = (v.stores h).getLast?.getD v.watcher.current := by
  have whole (isWhole : h.isWhole = true) :
      (v.move h).watcher.current = (v.sends h).getLast?.getD v.watcher.current := by
    rcases move_isWhole (v := v) isWhole with keeps | ⟨s, publishes, _⟩
    · rw [sends_of_keeps keeps]
      exact keeps.current
    · rw [sends_of_publishes publishes]
      exact publishes.current
  cases h with
  | disk | report | reload | subscribes | unsubscribes => exact whole rfl
  | begins cause => simp [stores, sends, move]
  | advances index =>
      simp only [move, stores]
      cases v.updates[index]? with
      | none => rfl
      | some u =>
          cases u with
          | loading cause => exact (v.watcher.advance_loading cause).1
          | storing | sending | finished => rfl

/-- What is current was stored last. -/
theorem current_run (v : Vigil) (happenings : List Happening) :
    (v.run happenings).watcher.current =
      (v.stored happenings).getLast?.getD v.watcher.current := by
  induction happenings generalizing v with
  | nil => rfl
  | cons h rest ih =>
      rw [run_cons, ih, current_move, stored, List.getLast?_append, Option.getD_or]

/-- A step of an update sends what it was about to send, and is about to send what it stores. -/
theorem sends_advance (w : Watcher) (u : Update) :
    ∃ now, (w.advance u).1.channel.sent.map (·.settings) = w.channel.sent.map (·.settings) ++ now ∧
      now ++ (w.advance u).2.sending?.toList = u.sending?.toList ++ u.storing?.toList := by
  cases u with
  | loading cause =>
      refine ⟨[], by rw [(w.advance_loading cause).2.1, List.append_nil], ?_⟩
      simp only [Watcher.advance]
      split
      · rfl
      · split
        · rfl
        · split <;> rfl
  | storing s | finished => exact ⟨[], (List.append_nil _).symm, rfl⟩
  | sending s => exact ⟨[s], List.map_append, rfl⟩

open scoped List in
/-- A step sends what was still to be sent, or has what it stores still to be sent, or sends that at
once. -/
theorem published_move (v : Vigil) (h : Happening) :
    ((v.move h).published ++ (v.move h).unsent).Perm (v.published ++ v.unsent ++ v.stores h) := by
  have whole (isWhole : h.isWhole = true) (same : (v.move h).updates = v.updates) :
      ((v.move h).published ++ (v.move h).unsent).Perm (v.published ++ v.unsent ++ v.sends h) := by
    rcases move_isWhole (v := v) isWhole with keeps | ⟨s, publishes, _⟩
    · rw [sends_of_keeps keeps]
      simp [published, unsent, same, keeps.channel]
    · rw [sends_of_publishes publishes]
      simp only [published, unsent, same, publishes.channel, Broadcast.send, List.map_append,
        List.append_assoc]
      exact List.perm_append_comm.append_left _
  cases h with
  | disk | report | reload | subscribes | unsubscribes => exact whole rfl rfl
  | begins cause =>
      have nothing : [Update.loading cause].filterMap Update.sending? = [] := rfl
      simp [stores, sends, move, published, unsent, nothing]
  | advances index =>
      cases here : v.updates[index]? with
      | none => simp [move, stores, here]
      | some u =>
          obtain ⟨others, before, after⟩ := filterMap_set_perm Update.sending? here
          obtain ⟨now, sent, balance⟩ := sends_advance v.watcher u
          simp only [move, stores, here, published, unsent, sent, Option.bind_some]
          let updates := v.updates.set index (v.watcher.advance u).2
          calc v.published ++ now ++ updates.filterMap Update.sending?
            _ ~ v.published ++ now ++ ((v.watcher.advance u).2.sending?.toList ++ others) :=
              (after _).append_left _
            _ = v.published ++ (u.sending?.toList ++ u.storing?.toList ++ others) := by
              rw [← balance, List.append_assoc, List.append_assoc]
            _ ~ v.published ++ (u.sending?.toList ++ others ++ u.storing?.toList) := by
              rw [List.append_assoc, List.append_assoc]
              exact (List.perm_append_comm.append_left _).append_left _
            _ ~ v.published ++ v.unsent ++ u.storing?.toList := by
              rw [← List.append_assoc]
              exact (before.symm.append_left _).append_right _

/-- Whatever is stored is sent once, if it is not still to be sent. -/
theorem published_run (v : Vigil) (happenings : List Happening) :
    ((v.run happenings).published ++ (v.run happenings).unsent).Perm
      (v.published ++ v.unsent ++ v.stored happenings) := by
  induction happenings generalizing v with
  | nil => simp [run_nil, stored]
  | cons h rest ih =>
      refine (ih (v.move h)).trans ?_
      rw [stored, ← List.append_assoc]
      exact (published_move v h).append_right _

theorem length_stores_le (v : Vigil) (h : Happening) : (v.stores h).length ≤ 1 := by
  have whole (isWhole : h.isWhole = true) : (v.sends h).length ≤ 1 := by
    rcases move_isWhole (v := v) isWhole with keeps | ⟨s, publishes, _⟩
    · simp [sends_of_keeps keeps]
    · simp [sends_of_publishes publishes]
  cases h with
  | disk | report | reload | subscribes | unsubscribes => exact whole rfl
  | begins cause => simp [stores, sends, move]
  | advances index => exact Option.length_toList_le

/-! ### Whether what was sent last is current -/

/-- If nobody stores settings while others are still to be sent, what is stored last is sent last. -/
theorem StoresApart.sendsInTurn {happenings : List Happening} (apart : v.StoresApart happenings)
    (alone : v.unsent.length ≤ 1) : v.SendsInTurn happenings := by
  induction happenings generalizing v with
  | nil => trivial
  | cons h rest ih =>
      have balance := (v.published_move h).length_eq
      have one := v.length_stores_le h
      have first : v.stores h = [] ∨ v.unsent = [] := Classical.or_iff_not_imp_left.mpr apart.1
      simp only [List.length_append] at balance
      have either : (v.stores h).length + v.unsent.length ≤ 1 := by
        rcases first with none | none <;> simp [none, alone, one]
      refine ⟨fun change sent _ => ?_, ih apart.2 ?_⟩
      · have longer : (v.move h).published.length = v.published.length + 1 := by
          simp [published, sent, Broadcast.send]
        have nothing : (v.move h).unsent = [] := List.eq_nil_of_length_eq_zero (by omega)
        exact fun s member => absurd member (isSettled_iff.mpr nothing s)
      · have grows : v.published.length ≤ (v.move h).published.length := by
          rcases v.channel_move h with same | ⟨change, sent⟩
          · simp [published, same]
          · simp [published, sent, Broadcast.send]
        omega

theorem IsConsistent.of_settled (h : v.IsConsistent) (settled : v.IsSettled) : v.watcher.IsUpToDate := by
  rcases h with pending | ⟨_, upToDate⟩
  · exact absurd pending (settled _)
  · exact upToDate

/-- Nothing is stored, nothing is sent, and nobody comes to have something to send. -/
theorem IsConsistent.keeps {x : Vigil} (h : v.IsConsistent) (keeps : v.watcher.Keeps x.watcher)
    (same : ∀ s, .sending s ∈ x.updates ↔ .sending s ∈ v.updates) : x.IsConsistent := by
  rcases h with pending | ⟨settled, upToDate⟩
  · left
    rw [keeps.current, same]
    exact pending
  · right
    exact ⟨fun s member => settled s ((same s).mp member), upToDate.keeps keeps⟩

/-- The current settings are sent. -/
theorem IsConsistent.of_sent {x : Vigil} (upToDate : x.watcher.IsUpToDate)
    (inTurn : ∀ s, .sending s ∈ x.updates → s = x.watcher.current) : x.IsConsistent := by
  by_cases settled : x.IsSettled
  · exact .inr ⟨settled, upToDate⟩
  · simp only [IsSettled, not_forall, not_not] at settled
    obtain ⟨s, pending⟩ := settled
    exact .inl (inTurn s pending ▸ pending)

theorem IsConsistent.move_whole (h : v.IsConsistent) {happening : Happening}
    (whole : happening.isWhole = true) (same : (v.move happening).updates = v.updates)
    (inTurn : v.InTurn happening) : (v.move happening).IsConsistent := by
  rcases move_isWhole (v := v) whole with keeps | ⟨s, publishes, _⟩
  · exact h.keeps keeps fun s => by rw [same]
  · exact .of_sent publishes.isUpToDate
      (inTurn _ publishes.channel publishes.current.symm)

theorem sending_set_iff {index : Nat} {u next : Update} (here : v.updates[index]? = some u)
    (before : ∀ s, u ≠ .sending s) (after : ∀ s, next ≠ .sending s) (s : Settings) :
    .sending s ∈ v.updates.set index next ↔ .sending s ∈ v.updates := by
  constructor
  · intro member
    rcases List.mem_or_eq_of_mem_set member with earlier | new
    · exact earlier
    · exact absurd new.symm (after s)
  · intro member
    exact mem_set_of_other member here (before s).symm next

theorem IsConsistent.advances (h : v.IsConsistent) {index : Nat} {u : Update}
    (here : v.updates[index]? = some u) (inTurn : v.InTurn (.advances index)) :
    (v.move (.advances index)).IsConsistent := by
  simp only [InTurn, move, here] at inTurn ⊢
  cases u with
  | loading cause =>
      obtain ⟨current, channel, _⟩ := v.watcher.advance_loading cause
      refine h.keeps ⟨?_, current, channel⟩ (sending_set_iff here (by simp) ?_)
      · simp only [Watcher.advance]
        split
        · rfl
        · split
          · rfl
          · split <;> rfl
      · intro s sends
        simp only [Watcher.advance] at sends
        split at sends
        · cases sends
        · split at sends
          · cases sends
          · split at sends <;> cases sends
  | storing s =>
      left
      have within : index < v.updates.length := (List.getElem?_eq_some_iff.mp here).1
      exact List.mem_set within _
  | sending s =>
      by_cases last : s = v.watcher.current
      · refine .of_sent ?_ (inTurn ⟨s, v.watcher.path⟩ rfl last)
        simp [Watcher.IsUpToDate, Watcher.advance, Watcher.log, Broadcast.send, last]
      · left
        have member : .sending s ∈ v.updates := List.mem_of_getElem? here
        rcases h with pending | ⟨settled, _⟩
        · have other : Update.sending v.watcher.current ≠ .sending s := by
            intro same
            cases same
            exact last rfl
          exact mem_set_of_other pending here other _
        · exact absurd member (settled s)
  | finished result =>
      exact h.keeps ⟨rfl, rfl, rfl⟩ (sending_set_iff here (by simp) (by simp [Watcher.advance]))

theorem IsConsistent.move (h : v.IsConsistent) {happening : Happening}
    (inTurn : v.InTurn happening) : (v.move happening).IsConsistent := by
  cases happening with
  | disk change => exact h.move_whole rfl rfl inTurn
  | report paths kind => exact h.move_whole rfl rfl inTurn
  | reload => exact h.move_whole rfl rfl inTurn
  | subscribes => exact h.move_whole rfl rfl inTurn
  | unsubscribes => exact h.move_whole rfl rfl inTurn
  | begins cause =>
      refine h.keeps ⟨rfl, rfl, rfl⟩ fun s => ?_
      simp [Vigil.move]
  | advances index =>
      cases here : v.updates[index]? with
      | none =>
          simp only [Vigil.move, here]
          exact h
      | some u => exact h.advances here inTurn

theorem IsConsistent.run (h : v.IsConsistent) (happenings : List Happening)
    (inTurn : v.SendsInTurn happenings) : (v.run happenings).IsConsistent := by
  induction happenings generalizing v with
  | nil => exact h
  | cons happening rest ih => exact ih (h.move inTurn.1) inTurn.2

theorem isConsistent_start {disk : Disk} {path : String} {w : Watcher}
    (started : Watcher.start disk path = .ok w) : (start w).IsConsistent :=
  .inr ⟨by simp [IsSettled, start], isUpToDate_start started⟩

end Vigil

/-! ## Two updates -/

namespace Vigil

open Upkeep

/-- A watch of the file that logs, before anything has happened. -/
structure OnLogging (v : Vigil) : Prop where
  updates : v.updates = []
  path : v.watcher.path = "r"
  disk : v.watcher.disk = diskOf loggingText
  current : v.watcher.current = logging "info"
  channel : v.watcher.channel = .blank Watcher.channelCapacity

theorem start_onLogging :
    ∃ w, Watcher.start (diskOf loggingText) "r" = .ok w ∧ (start w).OnLogging := by
  have folder := Route.isName_r.parentPath?
  have empty : ("" : String).isEmpty = true := rfl
  exact ⟨_, by simp only [Watcher.start, Watcher.watch, load_logging, folder, empty, bind, Except.bind,
    pure, Except.pure, Bool.true_or, if_true]; rfl, rfl, rfl, rfl, rfl, rfl⟩

/-- Somebody asks for an update. When that has loaded the file, another log level is written there, and
an update because of that loads the file too. -/
def loadingTwice : List Happening :=
  [.begins .request, .advances 0, .disk fun _ => diskOf ("log_level = \"debug\"\n" ++ loggingText),
    .begins .fileChange, .advances 1]

/-- The first update stores first and sends last. -/
def overtaking : List Happening := loadingTwice ++ [.advances 0, .advances 1, .advances 1, .advances 0]

/-- The first update stores last and sends last. -/
def overlapping : List Happening := loadingTwice ++ [.advances 1, .advances 0, .advances 1, .advances 0]

theorem sameAs_logging : (logging "info").sameAs (logging "debug") = false := by decide +kernel

namespace OnLogging

variable {v : Vigil}

theorem subscribes (h : v.OnLogging) : (v.move .subscribes).OnLogging :=
  ⟨h.updates, h.path, h.disk, h.current, h.channel⟩

theorem run_loadingTwice (h : v.OnLogging) :
    let x := v.run loadingTwice
    x.updates = [.storing (logging "info"), .storing (logging "debug")] ∧ x.watcher.path = "r" ∧
      x.watcher.channel = .blank Watcher.channelCapacity := by
  simp [loadingTwice, run, Vigil.move, Watcher.advance, Watcher.log, h.updates, h.path, h.disk,
    h.current, h.channel, sameAs_logging,
    load_logging, load_debugging]

theorem loadsWell (h : v.OnLogging) : v.LoadsWell overtaking := by
  simp [overtaking, loadingTwice, LoadsWell, loads, Update.isLoading, Vigil.move, Watcher.advance,
    Watcher.log, h.updates, h.path, h.disk, h.current, sameAs_logging, load_logging, load_debugging]

theorem sendsInTurn (h : v.OnLogging) : v.SendsInTurn overlapping := by
  simp [overlapping, loadingTwice, SendsInTurn, InTurn, Vigil.move, Watcher.advance, Watcher.log,
    Broadcast.send, Broadcast.blank, h.updates, h.path, h.disk, h.current, h.channel, sameAs_logging,
    load_logging, load_debugging]

theorem run_overtaking (h : v.OnLogging) :
    let x := v.run overtaking
    x.updates = [.finished .published, .finished .published] ∧
      x.watcher.current = logging "debug" ∧
      x.watcher.channel.sent = [⟨logging "debug", "r"⟩, ⟨logging "info", "r"⟩] := by
  obtain ⟨updates, path, channel⟩ := h.run_loadingTwice
  rw [overtaking, run_append]
  simp [run_cons, run_nil, Vigil.move, updates, path, channel, Watcher.advance, Watcher.log,
    Broadcast.send, Broadcast.blank]

theorem run_overlapping (h : v.OnLogging) :
    let x := v.run overlapping
    x.updates = [.finished .published, .finished .published] ∧
      x.watcher.current = logging "info" ∧
      x.watcher.channel.sent = [⟨logging "debug", "r"⟩, ⟨logging "info", "r"⟩] := by
  obtain ⟨updates, path, channel⟩ := h.run_loadingTwice
  rw [overlapping, run_append]
  simp [run_cons, run_nil, Vigil.move, updates, path, channel, Watcher.advance, Watcher.log,
    Broadcast.send, Broadcast.blank]

end OnLogging

end Vigil

namespace Procession

open Vigil

/-- A reloader that follows while two updates overlap, and then hears twice. -/
def hearing : List Upkeep.Move := overlapping.map Upkeep.Move.watches ++ [.hears, .hears]

section Hearing

variable {w : Watcher} (h : (Vigil.start w).OnLogging)

/-- It begins to follow on a program that began with another log level. -/
def follows (w : Watcher) : Procession :=
  start (Vigil.start w) (.start (Upkeep.logging "warn") (.preview 64) .blank "")

include h

theorem keeps_follows (moves : List Upkeep.Move) :
    ((follows w).run moves).Keeps [] (Upkeep.logging "warn") := by
  have capacity := congrArg Broadcast.capacity h.channel
  have begins := keeps_start capacity (Upkeep.logging "warn") .blank ""
  rw [h.channel] at begins
  exact (begins.run moves).1

theorem channel_follows {moves : List Upkeep.Move}
    (overlap : moves.filterMap (·.happening?) = overlapping) :
    ((follows w).run moves).follower.channel.sent =
      [⟨Upkeep.logging "debug", "r"⟩, ⟨Upkeep.logging "info", "r"⟩] := by
  have begins : (follows w).vigil = (Vigil.start w).move .subscribes := rfl
  rw [(keeps_follows h _).channel, vigil_run, overlap, begins]
  exact h.subscribes.run_overlapping.2.2

theorem caughtUp_hearing : ((follows w).run hearing).follower.IsCaughtUp := by
  have earlier := keeps_follows h (overlapping.map Upkeep.Move.watches)
  have overlap : (overlapping.map Upkeep.Move.watches).filterMap (·.happening?) = overlapping := rfl
  have two := congrArg List.length (channel_follows h overlap)
  have next := earlier.isCaughtUp_hears (n := 2)
    (by
      rw [Broadcast.oldest, earlier.follows.capacity, two]
      exact Nat.zero_le _)
    (by
      rw [two]
      exact Nat.sub_le 2 _)
  simp only [hearing, run, List.foldl_append]
  exact next

/-- What it heard of last was applied without a fault. -/
theorem endsWell_hearing : ((follows w).run hearing).follower.tenure.EndsWell := by
  have keeps := keeps_follows h hearing
  have latest : ((follows w).run hearing).follower.latest (Upkeep.logging "warn") [] =
      Upkeep.logging "info" := by
    rw [Follower.latest, Follower.published, channel_follows h rfl]
    rfl
  obtain ⟨_, builds, _⟩ := keeps.follows.ends_latest keeps.sound (caughtUp_hearing h)
  rw [latest] at builds
  exact builds fun _ => rfl

theorem sendsInTurn_hearing :
    (Vigil.start w).SendsInTurn (.subscribes :: overlapping) := by
  have first : (Vigil.start w).InTurn .subscribes := by
    intro change sent
    simp [Vigil.move, Watcher.subscribe, h.channel, Broadcast.send, Broadcast.blank] at sent
  exact ⟨first, h.subscribes.sendsInTurn⟩

end Hearing

/-- What is current and what was published last, however updates take their steps among those of
others and whatever becomes of the file between them. What is current was stored last. Whatever is
stored is sent, once, but maybe in another order; so when nobody has settings that are still to be sent,
a reloader that has heard of all, the last of it without a fault, has applied what was sent last. If what
is stored last is also sent last, that is what is current; so it is if nobody stores settings while those
of others are still to be sent. -/
theorem current_eq_published {disk : Disk} {path : String} {w : Watcher}
    (started : Watcher.start disk path = .ok w) {initial : Settings} {inspector : Inspector}
    {own opened : Disk} (built : Inspector.build own initial.inspector = .ok (inspector, opened))
    (now : String) (before : List Happening) (moves : List Upkeep.Move) :
    let v := (Vigil.start w).run before
    let p := (start v (.start initial inspector opened now)).run moves
    let happenings := before ++ .subscribes :: moves.filterMap (·.happening?)
    let stored := (Vigil.start w).stored happenings
    let current := p.vigil.watcher.current
    p.vigil = (Vigil.start w).run happenings ∧
    current = stored.getLast?.getD w.current ∧
    (p.vigil.published ++ p.vigil.unsent).Perm stored ∧
    (p.follower.IsCaughtUp → p.follower.tenure.EndsWell →
      p.follower.tenure.HasApplied (p.follower.latest initial v.watcher.channel.sent)) ∧
    ((Vigil.start w).StoresApart happenings → (Vigil.start w).SendsInTurn happenings) ∧
    (p.vigil.IsSettled → (Vigil.start w).SendsInTurn happenings →
      (∀ last ∈ p.vigil.published.getLast?, last = current) ∧
      (p.follower.published v.watcher.channel.sent ≠ [] →
        p.follower.latest initial v.watcher.channel.sent = current)) := by
  intro v p happenings stored current
  obtain rfl := Inspector.eq_of_build built
  obtain ⟨_, blank, _⟩ := Watcher.start_eq_ok started
  have all : p.vigil = (Vigil.start w).run happenings := by
    refine (vigil_run _ moves).trans ?_
    rw [Vigil.run, Vigil.run, List.foldl_append]
    rfl
  have kept : v.watcher.channel.capacity = Watcher.channelCapacity := by
    rw [capacity_run]
    exact congrArg (·.capacity) blank
  have keeps := ((keeps_start kept initial opened now).run moves).1
  refine ⟨all, ?_, ?_, keeps.hasApplied, (·.sendsInTurn (Nat.zero_le 1)), fun settled inTurn => ?_⟩
  · simp only [current, all, current_run]
    rfl
  · have perm := published_run (Vigil.start w) happenings
    have none : (Vigil.start w).published ++ (Vigil.start w).unsent = [] := by
      simp [Vigil.published, Vigil.unsent, Vigil.start, blank, Broadcast.blank]
    rwa [none, List.nil_append, ← all] at perm
  have consistent : p.vigil.IsConsistent := all ▸ (isConsistent_start started).run _ inTurn
  have upToDate := consistent.of_settled settled
  refine ⟨fun last isLast => ?_, fun some => ?_⟩
  · rw [Vigil.published, List.getLast?_map] at isLast
    obtain ⟨change, newest, rfl⟩ := Option.map_eq_some_iff.mp isLast
    exact upToDate change newest
  · refine Follower.latest_eq_of_last initial some fun last isLast => upToDate last ?_
    rw [← keeps.channel]
    exact isLast

/-- Two updates whose publications overlap, and of which the one that stored last sends last. A reloader
that heard of both has applied what is current. -/
theorem current_eq_published_overlapping :
    ∃ w, Watcher.start (Upkeep.diskOf Upkeep.loggingText) "r" = .ok w ∧
      ((follows w).run hearing).vigil.IsSettled ∧ ((follows w).run hearing).follower.IsCaughtUp ∧
      ((follows w).run hearing).vigil.watcher.current = Upkeep.logging "info" ∧
      ((follows w).run hearing).follower.tenure.HasApplied (Upkeep.logging "info") := by
  obtain ⟨w, started, onLogging⟩ := start_onLogging
  have built : Inspector.build .blank (Upkeep.logging "warn").inspector = .ok (.preview 64, .blank) := rfl
  have agrees := current_eq_published started built "" [] hearing
  have happenings : hearing.filterMap (·.happening?) = overlapping := rfl
  have caughtUp := caughtUp_hearing onLogging
  have well := endsWell_hearing onLogging
  have some : ((follows w).run hearing).follower.published (Vigil.start w).watcher.channel.sent ≠ [] := by
    rw [onLogging.channel, Follower.published, channel_follows onLogging rfl]
    exact List.cons_ne_nil _ _
  simp only [run_nil, happenings, List.nil_append] at agrees
  refine ⟨w, started, ?_⟩
  simp only [follows] at caughtUp well some ⊢
  generalize Procession.run _ hearing = p at agrees caughtUp well some ⊢
  obtain ⟨vigil, _, _, applied, _, latest⟩ := agrees
  obtain ⟨updates, current, _⟩ := onLogging.subscribes.run_overlapping
  rw [← run_cons, ← vigil] at updates current
  have settled : p.vigil.IsSettled := by simp [IsSettled, updates]
  refine ⟨settled, caughtUp, current, ?_⟩
  rw [← current, ← (latest settled (sendsInTurn_hearing onLogging)).2 some]
  exact applied caughtUp well

/-- One update overtakes another between storing and sending, and what is current afterwards is not what
was published last. -/
theorem current_ne_published :
    ¬∀ (disk : Disk) (path : String) (w : Watcher) (happenings : List Happening),
      Watcher.start disk path = .ok w → (Vigil.start w).LoadsWell happenings →
      let v := (Vigil.start w).run happenings
      (∀ u ∈ v.updates, ∃ result, u = .finished result) →
      ∀ last ∈ v.published.getLast?, last = v.watcher.current := by
  intro claimed
  obtain ⟨w, started, onLogging⟩ := start_onLogging
  obtain ⟨updates, current, sent⟩ := onLogging.run_overtaking
  have finished : ∀ u ∈ ((Vigil.start w).run overtaking).updates, ∃ result, u = .finished result := by
    simp [updates]
  have same := claimed _ _ w overtaking started onLogging.loadsWell finished (Upkeep.logging "info")
    (by rw [Vigil.published, sent]; rfl)
  rw [current] at same
  revert same
  decide +kernel

end Procession

end Wiretap
