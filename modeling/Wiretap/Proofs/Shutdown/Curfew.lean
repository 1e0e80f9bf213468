import Mathlib.Logic.Function.Basic
import Wiretap.Proofs.Broadcast
import Wiretap.Shutdown.Coordinator
import Wiretap.Supervise.Run
/-! # Everybody who has to do with the end

Any number of users fire a coordinator, wait for the end, and run supervisors that listen for it. All
of them take their steps in any order. Firing is two steps. A wait is polled: a poll goes over the
branches of a selection, in an order that is open, and goes to sleep when neither has anything.
Whoever listens to the signals may fire the coordinator meanwhile; that is one of the calls.
-/

namespace Wiretap

theorem Waiting.take_selecting (c : Coordinator) (receiver : Nat) (isListening : Bool) :
    ((Waiting.selecting receiver isListening).take c).1 =
      if c.channel.sent.length ≤ receiver then .selecting receiver isListening else .returned := by
  have empty := c.channel.receive_eq_empty_iff receiver
  simp only [Waiting.take]
  cases received : c.channel.receive receiver with
  | mk value receiver' =>
      rw [received] at empty
      cases value with
      | empty => rw [if_pos (empty.mp rfl)]
      | lagged | message =>
          rw [if_neg]
          intro nothing
          cases empty.mpr nothing

/-- What was done to a coordinator stays done. -/
def Coordinator.Precedes (c d : Coordinator) : Prop :=
  (c.isTriggered = true → d.isTriggered = true) ∧ c.channel.sent.length ≤ d.channel.sent.length

theorem Coordinator.Precedes.refl (c : Coordinator) : c.Precedes c := ⟨id, Nat.le_refl _⟩

/-! ## Calls -/

/-- A call that fires the coordinator. -/
inductive Firing where
  | begun | raised | done
  deriving Repr, DecidableEq, BEq

/-- One step of a call. -/
def Firing.step (c : Coordinator) : Firing → Coordinator × Firing
  | .begun => (c.raise, .raised)
  | .raised => (c.announce, .done)
  | .done => (c, .done)

namespace Firing

/-- What a call has done by now. The flag goes up before anybody is told. -/
structure Sound (c : Coordinator) (f : Firing) : Prop where
  raised : f ≠ .begun → c.isTriggered = true
  announced : f = .done → 0 < c.channel.sent.length

variable {c d : Coordinator} {f : Firing}

theorem precedes_step (f : Firing) (c : Coordinator) : c.Precedes (f.step c).1 := by
  cases f with
  | begun => exact ⟨fun _ => rfl, Nat.le_refl _⟩
  | raised => exact ⟨id, by simp [step, Coordinator.announce, Broadcast.send]⟩
  | done => exact .refl c

theorem Sound.mono (h : f.Sound c) (earlier : c.Precedes d) : f.Sound d :=
  ⟨fun begun => earlier.1 (h.raised begun),
    fun ended => Nat.lt_of_lt_of_le (h.announced ended) earlier.2⟩

theorem Sound.step (h : f.Sound c) : (f.step c).2.Sound (f.step c).1 := by
  cases f with
  | begun =>
      constructor
      · exact fun _ => rfl
      · intro ended
        cases ended
  | raised =>
      constructor
      · exact fun _ => h.raised (by simp)
      · exact fun _ => by simp [Firing.step, Coordinator.announce, Broadcast.send]
  | done => exact h

theorem Sound.told (h : f.Sound c) (told : 0 < c.channel.sent.length → c.isTriggered = true)
    (word : 0 < (f.step c).1.channel.sent.length) : (f.step c).1.isTriggered = true := by
  cases f with
  | begun => rfl
  | raised => exact h.raised (by simp)
  | done => exact told word

end Firing

/-! ## Waits -/

/-- A branch of the selection. -/
inductive Branch where
  | signals | word
  deriving Repr, DecidableEq, BEq

def Branch.other : Branch → Branch
  | .signals => .word
  | .word => .signals

/-- How far a poll has come with the selection. -/
inductive Look where
  | asleep
  | upon (branch : Branch) (isLast : Bool)
  /-- Neither branch has anything. -/
  | through
  deriving Repr, DecidableEq, BEq

namespace Look

/-- A selection begins with either branch, unless only the word is left. -/
def first (isListening : Bool) (branch : Branch) : Look :=
  if isListening then .upon branch false else .upon .word true

def next (branch : Branch) (isLast : Bool) : Look :=
  if isLast then .through else .upon branch.other true

end Look

/-- Somebody who waits for the end. -/
structure Waiter where
  waiting : Waiting
  look : Look
  /-- What listening to the signals gave each time, the last first. -/
  answers : List (Option ListenerEnd)
  deriving Repr, DecidableEq, BEq

namespace Waiter

def start : Waiter := ⟨.subscribing, .asleep, []⟩

/-- One step of a wait, with what the signals give if they are listened to in it. -/
def step (c : Coordinator) (branch : Branch) (answer : Option ListenerEnd) (w : Waiter) : Waiter :=
  match w.waiting with
  | .subscribing => { w with waiting := w.waiting.subscribe c }
  | .checking _ => { w with waiting := w.waiting.check c, look := .first true branch }
  | .selecting _ isListening =>
    match w.look with
    | .asleep => { w with look := .first isListening branch }
    | .through => { w with look := .asleep }
    | .upon .word isLast => { w with waiting := (w.waiting.take c).1, look := .next .word isLast }
    | .upon .signals isLast =>
      match answer with
      | none => { w with look := .next .signals isLast, answers := none :: w.answers }
      | some e =>
        { waiting := (w.waiting.hear e).1, look := .first false branch
          answers := some e :: w.answers }
  | .returned => w

/-- Whether the next poll has yet to begin. -/
def isSuspended (w : Waiter) : Bool :=
  match w.waiting with
  | .subscribing => true
  | .selecting .. => w.look = .asleep
  | .checking _ | .returned => false

/-- The most steps that a wait takes to its end from when a word is there. -/
def due (w : Waiter) : Nat :=
  match w.waiting with
  | .subscribing => 3
  | .checking _ => 1
  | .selecting .. =>
    match w.look with
    | .upon .word _ => 1
    | .upon .signals false => 2
    | .asleep => 3
    | .through => 4
    | .upon .signals true => 5
  | .returned => 0

/-- Whoever waits in the program that runs polls the signals first, while they are listened to. -/
theorem waiting_listen (c : Coordinator) (listener : SignalListener) (receiver : Nat)
    (isListening : Bool) (answers : List (Option ListenerEnd)) (journal : Journal) :
    let began := step c .signals none ⟨.selecting receiver isListening, .asleep, answers⟩
    let (d, _, answer) := listener.poll c
    let heard := if isListening then began.step d .signals answer else began
    let wait := Wait.listen listener ⟨c, .selecting receiver isListening, journal⟩
    wait.waiting = (heard.step wait.coordinator .signals none).waiting := by
  cases isListening with
  | false => rfl
  | true => cases listener <;> rfl

theorem due_le (w : Waiter) : w.due ≤ 5 := by
  unfold due
  split
  · simp
  · simp
  · split <;> simp
  · simp

theorem due_eq_zero_iff (w : Waiter) : w.due = 0 ↔ w.waiting = .returned := by
  unfold due
  split
  · simp_all
  · simp_all
  · split <;> simp_all
  · simp_all

theorem due_of_isSuspended {w : Waiter} (h : w.isSuspended = true) : w.due = 3 := by
  unfold isSuspended at h
  unfold due
  split at h
  · rename_i here
    simp only [here]
  · rename_i here
    simp only [decide_eq_true_eq] at h
    simp only [here, h]
  · cases h
  · cases h

/-- What a wait is like at any time. Whoever finds the flag down has missed nothing, and the signals
are not listened to any more once that has come to an end. -/
inductive Sound (c : Coordinator) : Waiter → Prop where
  | subscribing : Sound c ⟨.subscribing, .asleep, []⟩
  | checking {receiver : Nat} (kept : receiver ≤ c.channel.sent.length) :
      Sound c ⟨.checking receiver, .asleep, []⟩
  | listening {look : Look} {answers : List (Option ListenerEnd)}
      (silent : ∀ answer ∈ answers, answer = none) : Sound c ⟨.selecting 0 true, look, answers⟩
  | deaf {look : Look} (place : look = .asleep ∨ look = .upon .word true ∨ look = .through)
      {answers : List (Option ListenerEnd)} (silent : ∀ answer ∈ answers.tail, answer = none) :
      Sound c ⟨.selecting 0 false, look, answers⟩
  | returned {look : Look} (fired : c.isTriggered = true) {answers : List (Option ListenerEnd)}
      (silent : ∀ answer ∈ answers.tail, answer = none) : Sound c ⟨.returned, look, answers⟩

variable {c d : Coordinator} {w : Waiter}

theorem Sound.mono (h : w.Sound c) (earlier : c.Precedes d) : w.Sound d := by
  cases h with
  | subscribing => exact .subscribing
  | checking kept => exact .checking (Nat.le_trans kept earlier.2)
  | listening silent => exact .listening silent
  | deaf place silent => exact .deaf place silent
  | returned fired silent => exact .returned (earlier.1 fired) silent

theorem Sound.fired (h : w.Sound c) (ended : w.waiting = .returned) : c.isTriggered = true := by
  cases h with
  | returned fired _ => exact fired
  | _ => cases ended

theorem Sound.silent (h : w.Sound c) : ∀ answer ∈ w.answers.tail, answer = none := by
  cases h with
  | subscribing | checking => simp
  | listening silent => exact fun answer member => silent answer (List.mem_of_mem_tail member)
  | deaf _ silent | returned _ silent => exact silent

/-- The signals are listened to only while their listener has not ended, and when it ends the wait
goes on. -/
theorem Sound.hears (h : w.Sound c) {receiver : Nat} {isListening isLast : Bool}
    (waits : w.waiting = .selecting receiver isListening) (look : w.look = .upon .signals isLast)
    (branch : Branch) (e : ListenerEnd) :
    isListening = true ∧ (w.step c branch (some e)).waiting = .selecting receiver false := by
  cases h with
  | listening _ =>
      cases waits
      cases look
      exact ⟨rfl, rfl⟩
  | deaf place _ =>
      cases look
      simp at place
  | subscribing | checking | returned => cases waits

theorem Sound.take {isListening : Bool} {look : Look} {answers : List (Option ListenerEnd)}
    (told : 0 < c.channel.sent.length → c.isTriggered = true)
    (stays : Sound c ⟨.selecting 0 isListening, look, answers⟩) :
    Sound c ⟨((Waiting.selecting 0 isListening).take c).1, look, answers⟩ := by
  rw [Waiting.take_selecting]
  split
  · exact stays
  · exact .returned (told (by omega)) stays.silent

theorem Sound.step (h : w.Sound c) (told : 0 < c.channel.sent.length → c.isTriggered = true)
    (branch : Branch) (answer : Option ListenerEnd) : (w.step c branch answer).Sound c := by
  cases h with
  | subscribing => exact .checking (Nat.le_refl _)
  | @checking receiver kept =>
      simp only [Waiter.step, Waiting.check]
      split
      · rename_i raised
        exact .returned raised (by simp)
      · rename_i down
        -- Whoever is told is told after the flag went up.
        have nothing : ¬0 < c.channel.sent.length := fun some => down (told some)
        obtain rfl : receiver = 0 := by omega
        exact .listening (by simp)
  | @listening look answers silent =>
      cases look with
      | asleep | through => exact .listening silent
      | upon branch isLast =>
          cases branch with
          | word => exact .take told (.listening silent)
          | signals =>
              cases answer with
              | none => exact .listening (by simpa using silent)
              | some e => exact .deaf (by simp [Look.first]) silent
  | deaf place silent =>
      rcases place with rfl | rfl | rfl
      · exact .deaf (by simp [Look.first]) silent
      · exact .take told (.deaf (by simp [Look.next]) silent)
      · exact .deaf (by simp) silent
  | returned fired silent => exact .returned fired silent

/-- From when a word is there, every step of a wait brings it nearer to its end. -/
theorem Sound.due_step (h : w.Sound c) (fired : c.isTriggered = true)
    (word : 0 < c.channel.sent.length) (branch : Branch) (answer : Option ListenerEnd) :
    (w.step c branch answer).due ≤ w.due - 1 := by
  have taken (isListening : Bool) : ((Waiting.selecting 0 isListening).take c).1 = .returned := by
    rw [Waiting.take_selecting, if_neg (by omega)]
  cases h with
  | subscribing => simp [Waiter.step, Waiting.subscribe, due]
  | checking kept => simp [Waiter.step, Waiting.check, fired, due]
  | @listening look answers silent =>
      cases look with
      | asleep => cases branch <;> simp [Waiter.step, Look.first, due]
      | through => simp [Waiter.step, due]
      | upon branch isLast =>
          cases branch with
          | word => simp [Waiter.step, taken, due]
          | signals =>
              cases answer with
              | none => cases isLast <;> simp [Waiter.step, Look.next, Branch.other, due]
              | some e => cases isLast <;> simp [Waiter.step, Waiting.hear, Look.first, due]
  | deaf place silent =>
      rcases place with rfl | rfl | rfl
      · simp [Waiter.step, Look.first, due]
      · simp [Waiter.step, taken, due]
      · simp [Waiter.step, due]
  | returned fired silent => simp [Waiter.step, due]

end Waiter

/-! ## Supervisors -/

/-- A run of a supervisor that listens for the end. -/
structure Attendant where
  run : Run
  receiver : Nat

namespace Attendant

/-- Let a supervisor run that listens from now on. -/
def start (c : Coordinator) (run : Run) : Attendant := ⟨run.start, c.channel.subscribe⟩

/-- The run does something, but it does not end of itself. -/
def work (change : Run → Run) (a : Attendant) : Attendant :=
  { a with run := { change a.run with isRunning := a.run.isRunning } }

/-- Look for a word. Whatever comes ends the run. -/
def hear (c : Coordinator) (a : Attendant) : Attendant :=
  if a.run.isRunning then
    match c.channel.receive a.receiver with
    | (.empty, _) => a
    | (_, receiver) => ⟨a.run.stop, receiver⟩
  else a

/-- A run that is over was told to end, and one that is not has missed nothing that it does not
know of. -/
structure Sound (c : Coordinator) (a : Attendant) : Prop where
  ended : a.run.isRunning = false → 0 < c.channel.sent.length
  kept : a.run.isRunning = true → a.receiver ≤ c.channel.sent.length

variable {c d : Coordinator} {a : Attendant}

theorem hear_of_le (nothing : c.channel.sent.length ≤ a.receiver) : a.hear c = a := by
  have empty := (c.channel.receive_eq_empty_iff a.receiver).mpr nothing
  unfold hear
  split
  · split
    · rfl
    · rename_i other received
      rw [received] at empty
      cases empty
      cases other rfl
  · rfl

theorem hear_of_lt (some : a.receiver < c.channel.sent.length) : (a.hear c).run.isRunning = false := by
  have word := mt (c.channel.receive_eq_empty_iff a.receiver).mp (by omega)
  unfold hear
  split
  · split
    · rename_i received
      rw [received] at word
      exact absurd rfl word
    · rfl
  · rename_i ended
    simpa using ended

theorem Sound.start (c : Coordinator) (run : Run) : (start c run).Sound c :=
  ⟨(by cases ·), fun _ => Nat.le_refl _⟩

theorem Sound.work (h : a.Sound c) (change : Run → Run) : (a.work change).Sound c :=
  ⟨h.ended, h.kept⟩

theorem Sound.mono (h : a.Sound c) (earlier : c.Precedes d) : a.Sound d :=
  ⟨fun ended => Nat.lt_of_lt_of_le (h.ended ended) earlier.2,
    fun running => Nat.le_trans (h.kept running) earlier.2⟩

theorem Sound.hear (h : a.Sound c) : (a.hear c).Sound c := by
  rcases Nat.lt_or_ge a.receiver c.channel.sent.length with some | nothing
  · refine ⟨fun _ => by omega, fun running => ?_⟩
    rw [hear_of_lt some] at running
    cases running
  · rw [hear_of_le nothing]
    exact h

/-- While a run that began before anything was said goes on, all of that is before it. -/
def IsEarly (a : Attendant) : Prop := a.run.isRunning = true → a.receiver = 0

theorem IsEarly.hear (h : a.IsEarly) : (a.hear c).IsEarly := by
  intro running
  rcases Nat.lt_or_ge a.receiver c.channel.sent.length with some | nothing
  · rw [hear_of_lt some] at running
    cases running
  · rw [hear_of_le nothing] at running ⊢
    exact h running

/-- Whoever was there in time and goes on has something to hear. -/
theorem IsEarly.isRunning_or_receive (h : a.IsEarly) (word : 0 < c.channel.sent.length) :
    a.run.isRunning = false ∨ (c.channel.receive a.receiver).1 ≠ .empty := by
  cases running : a.run.isRunning with
  | false => exact .inl rfl
  | true =>
      refine .inr (mt (c.channel.receive_eq_empty_iff a.receiver).mp ?_)
      rw [h running]
      omega

end Attendant

/-! ## All together -/

/-- Everybody who has to do with the end of a program. -/
structure Curfew where
  coordinator : Coordinator
  firings : Nat → Firing
  waiters : Nat → Waiter
  attendants : Nat → Option Attendant

namespace Curfew

def start : Curfew := ⟨.start, fun _ => .begun, fun _ => .start, fun _ => none⟩

inductive Move where
  /-- A call that fires the coordinator takes a step. -/
  | fires (i : Nat)
  /-- A wait takes a step. -/
  | waits (i : Nat) (branch : Branch) (answer : Option ListenerEnd)
  /-- A supervisor is let run, if there is not one already. -/
  | runs (i : Nat) (run : Run)
  /-- A supervisor that runs does something. -/
  | works (i : Nat) (change : Run → Run)
  /-- A supervisor that runs looks for a word. -/
  | hears (i : Nat)

/-- Whether a move is a step of a certain wait. -/
def Move.isOf (i : Nat) : Move → Bool
  | .waits j .. => j = i
  | _ => false

def move (c : Curfew) : Move → Curfew
  | .fires i =>
    let next := (c.firings i).step c.coordinator
    { c with coordinator := next.1, firings := Function.update c.firings i next.2 }
  | .waits i branch answer =>
    let waiter := (c.waiters i).step c.coordinator branch answer
    { c with waiters := Function.update c.waiters i waiter }
  | .runs i run =>
    let attendant := (c.attendants i).getD (.start c.coordinator run)
    { c with attendants := Function.update c.attendants i (some attendant) }
  | .works i change =>
    { c with attendants := Function.update c.attendants i ((c.attendants i).map (·.work change)) }
  | .hears i =>
    let attendant? := (c.attendants i).map (·.hear c.coordinator)
    { c with attendants := Function.update c.attendants i attendant? }

def run (c : Curfew) (moves : List Move) : Curfew := moves.foldl move c

theorem run_cons (c : Curfew) (m : Move) (moves : List Move) :
    c.run (m :: moves) = (c.move m).run moves :=
  rfl

theorem precedes_move (c : Curfew) (m : Move) : c.coordinator.Precedes (c.move m).coordinator := by
  cases m with
  | fires i => exact (c.firings i).precedes_step c.coordinator
  | waits | runs | works | hears => exact .refl _

/-- What everybody is like at any time. -/
structure Sound (c : Curfew) : Prop where
  told : 0 < c.coordinator.channel.sent.length → c.coordinator.isTriggered = true
  fires (i : Nat) : (c.firings i).Sound c.coordinator
  waits (i : Nat) : (c.waiters i).Sound c.coordinator
  attends (i : Nat) : ∀ a ∈ c.attendants i, a.Sound c.coordinator

variable {c : Curfew}

theorem sound_start : start.Sound where
  told word := absurd word (Nat.lt_irrefl 0)
  fires _ := ⟨absurd rfl, fun ended => by cases ended⟩
  waits _ := .subscribing
  attends _ _ present := by cases present

theorem Sound.attendant (h : c.Sound) {i : Nat} {a? : Option Attendant}
    (sound : ∀ a ∈ a?, a.Sound c.coordinator) :
    Sound { c with attendants := Function.update c.attendants i a? } :=
  { h with
    attends := (Function.forall_update_iff _ fun _ (b? : Option Attendant) =>
      ∀ b ∈ b?, b.Sound c.coordinator).mpr ⟨sound, fun j _ => h.attends j⟩ }

theorem Sound.move (h : c.Sound) (m : Move) : (c.move m).Sound := by
  cases m with
  | fires i =>
      have earlier := c.precedes_move (.fires i)
      exact
        { told := (h.fires i).told h.told
          fires := (Function.forall_update_iff _ fun _ (f : Firing) => f.Sound _).mpr
            ⟨(h.fires i).step, fun j _ => (h.fires j).mono earlier⟩
          waits := fun j => (h.waits j).mono earlier
          attends := fun j a present => (h.attends j a present).mono earlier }
  | waits i branch answer =>
      exact { h with
        waits := (Function.forall_update_iff _ fun _ (w : Waiter) => w.Sound _).mpr
          ⟨(h.waits i).step h.told branch answer, fun j _ => h.waits j⟩ }
  | runs i run =>
      refine h.attendant ?_
      rintro _ ⟨⟩
      cases here : c.attendants i with
      | none => exact .start c.coordinator run
      | some a => exact h.attends i a here
  | works i change =>
      refine h.attendant fun b working => ?_
      obtain ⟨a, present, rfl⟩ := Option.map_eq_some_iff.mp working
      exact (h.attends i a present).work change
  | hears i =>
      refine h.attendant fun b hearing => ?_
      obtain ⟨a, present, rfl⟩ := Option.map_eq_some_iff.mp hearing
      exact (h.attends i a present).hear

theorem Sound.run (h : c.Sound) (moves : List Move) : (c.run moves).Sound := by
  induction moves generalizing c with
  | nil => exact h
  | cons m moves ih => exact ih (h.move m)

/-- Only a wait's own steps change it. -/
theorem waiters_move_of_not_isOf {m : Move} {i : Nat} (other : m.isOf i = false) :
    (c.move m).waiters i = c.waiters i := by
  cases m with
  | waits j branch answer =>
      have apart : i ≠ j := fun same => by simp [Move.isOf, same] at other
      exact Function.update_of_ne apart _ _
  | fires | runs | works | hears => rfl

theorem Sound.due_move (h : c.Sound) (word : 0 < c.coordinator.channel.sent.length) (i : Nat)
    (m : Move) :
    ((c.move m).waiters i).due ≤ (c.waiters i).due - if m.isOf i then 1 else 0 := by
  cases own : m.isOf i with
  | false => simp [waiters_move_of_not_isOf own]
  | true =>
      cases m with
      | waits j branch answer =>
          obtain rfl : j = i := by simpa [Move.isOf] using own
          have nearer := (h.waits j).due_step (h.told word) word branch answer
          simpa [Curfew.move] using nearer
      | fires | runs | works | hears => cases own

/-- However many steps others take in between, each of its own brings a wait nearer to its end. -/
theorem Sound.due_run (h : c.Sound) (word : 0 < c.coordinator.channel.sent.length) (i : Nat)
    (moves : List Move) :
    ((c.run moves).waiters i).due ≤ (c.waiters i).due - moves.countP (·.isOf i) := by
  induction moves generalizing c with
  | nil => exact Nat.le_refl _
  | cons m moves ih =>
      have first := h.due_move word i m
      have rest := ih (h.move m) (Nat.lt_of_lt_of_le word (c.precedes_move m).2)
      rw [run_cons, List.countP_cons]
      omega

/-- Whether a supervisor was let run before anything was said. -/
def IsEarly (c : Curfew) (i : Nat) : Prop := ∃ a, c.attendants i = some a ∧ a.IsEarly

theorem IsEarly.attendant {i j : Nat} {a? : Option Attendant} (h : c.IsEarly i)
    (own : i = j → ∃ a, a? = some a ∧ a.IsEarly) :
    IsEarly { c with attendants := Function.update c.attendants j a? } i := by
  by_cases same : i = j
  · obtain ⟨a, present, early⟩ := own same
    subst same
    exact ⟨a, by simp [present], early⟩
  · simpa [IsEarly, same] using h

theorem IsEarly.move {i : Nat} (h : c.IsEarly i) (m : Move) : (c.move m).IsEarly i := by
  obtain ⟨a, present, early⟩ := h
  cases m with
  | fires | waits => exact ⟨a, present, early⟩
  | runs j run =>
      refine IsEarly.attendant ⟨a, present, early⟩ ?_
      rintro rfl
      exact ⟨a, by simp [present], early⟩
  | works j change =>
      refine IsEarly.attendant ⟨a, present, early⟩ ?_
      rintro rfl
      exact ⟨a.work change, by simp [present], early⟩
  | hears j =>
      refine IsEarly.attendant ⟨a, present, early⟩ ?_
      rintro rfl
      exact ⟨a.hear c.coordinator, by simp [present], early.hear⟩

theorem IsEarly.run {i : Nat} (h : c.IsEarly i) (moves : List Move) : (c.run moves).IsEarly i := by
  induction moves generalizing c with
  | nil => exact h
  | cons m moves ih => exact ih (h.move m)

/-- The end comes to everybody, and to nobody too soon. A wait or a run is over only when somebody
fired the coordinator. Once a call that fires it is over, a wait that is not is so after its next
poll, which does not go to sleep. The signals are listened to until their listener ends, and that
never ends the wait. A run that began before anything was said gets a word, or learns that it missed
some, and either ends it. -/
theorem end_reaches_everybody (before more : List Move) (i : Nat) :
    let c := start.run before
    let d := c.run more
    let steps := more.countP (·.isOf i)
    ((c.waiters i).waiting = .returned → c.coordinator.isTriggered = true) ∧
    ((∃ j, c.firings j = .done) →
      (5 ≤ steps → (d.waiters i).waiting = .returned) ∧
      ((c.waiters i).isSuspended = true →
        (1 ≤ steps → (d.waiters i).isSuspended = false) ∧
        (3 ≤ steps → (d.waiters i).waiting = .returned))) ∧
    (∀ answer ∈ (c.waiters i).answers.tail, answer = none) ∧
    (∀ receiver isListening isLast, (c.waiters i).waiting = .selecting receiver isListening →
      (c.waiters i).look = .upon .signals isLast → isListening = true ∧
      ∀ branch e, ((c.move (.waits i branch (some e))).waiters i).waiting =
        .selecting receiver false) ∧
    ∀ a, c.attendants i = some a →
      (a.run.isRunning = false → c.coordinator.isTriggered = true) ∧
      (c.coordinator.channel.sent = [] → (∃ j, d.firings j = .done) →
        ∃ b, d.attendants i = some b ∧
          (b.run.isRunning = false ∨ (d.coordinator.channel.receive b.receiver).1 ≠ .empty) ∧
          ∃ e, (d.move (.hears i)).attendants i = some e ∧ e.run.isRunning = false) := by
  intro c d steps
  have sound : c.Sound := sound_start.run before
  have waits := sound.waits i
  refine ⟨waits.fired, ?_, waits.silent, ?_, ?_⟩
  · rintro ⟨j, ended⟩
    have nearer : (d.waiters i).due ≤ (c.waiters i).due - steps :=
      sound.due_run ((sound.fires j).announced ended) i more
    have most := (c.waiters i).due_le
    refine ⟨fun enough => (Waiter.due_eq_zero_iff _).mp (by omega), fun suspended => ?_⟩
    have whole := Waiter.due_of_isSuspended suspended
    constructor
    · intro some
      cases again : (d.waiters i).isSuspended with
      | false => rfl
      | true =>
          -- It would be as far from its end as before its own steps.
          have stuck := Waiter.due_of_isSuspended again
          omega
    · intro enough
      exact (Waiter.due_eq_zero_iff _).mp (by omega)
  · intro receiver isListening isLast waiting look
    refine ⟨(waits.hears waiting look .word .fine).1, fun branch e => ?_⟩
    have goesOn := (waits.hears waiting look branch e).2
    simpa [Curfew.move] using goesOn
  · intro a present
    have attends := sound.attends i a present
    refine ⟨fun ended => sound.told (attends.ended ended), fun unsaid => ?_⟩
    rintro ⟨j, ended⟩
    have early : c.IsEarly i := by
      refine ⟨a, present, fun running => ?_⟩
      have kept := attends.kept running
      rw [unsaid] at kept
      exact Nat.le_zero.mp kept
    have word := ((sound.run more).fires j).announced ended
    obtain ⟨b, there, stillEarly⟩ := early.run more
    refine ⟨b, there, stillEarly.isRunning_or_receive word, b.hear d.coordinator, ?_, ?_⟩
    · simp only [Curfew.move, Function.update_self]
      rw [there]
      rfl
    · cases running : b.run.isRunning with
      | false => simp [Attendant.hear, running]
      | true =>
          refine Attendant.hear_of_lt ?_
          rw [stillEarly running]
          exact word

/-- Two calls at once, so that the channel keeps one word of two, and a wait whose signals failed. -/
theorem end_reaches_lagging :
    let relay := { Relay.atPort 9 with targetPort := some 7 }
    let scene := Scene.start {} (.start .noop ⟨[]⟩ "") fun _ => ""
    let before : List Move :=
      [.runs 0 (.ofRelay relay scene), .waits 0 .word none, .waits 0 .word none, .waits 0 .word none,
        .waits 0 .word (some (.failed (.of (.noParentFolder "")))), .fires 0, .waits 0 .word none,
        .fires 1, .waits 0 .word none]
    let calls : List Move := [.fires 1, .fires 0]
    let c := start.run (before ++ calls)
    let d := c.run [.waits 0 .word none, .waits 0 .word none, .waits 0 .word none]
    ((c.waiters 0).isSuspended = true ∧ c.coordinator.channel.oldest = 1 ∧
      (d.waiters 0).waiting = .returned) ∧
    ∃ b, c.attendants 0 = some b ∧ (c.coordinator.channel.receive b.receiver).1 = .lagged 1 ∧
      ∃ e, (c.move (.hears 0)).attendants 0 = some e ∧ e.run.isRunning = false := by
  intro relay scene before calls c d
  have suspended : (c.waiters 0).isSuspended = true := by decide +kernel
  have fired : ∃ j, c.firings j = .done := ⟨0, by decide +kernel⟩
  obtain ⟨_, comes, _⟩ :=
    end_reaches_everybody (before ++ calls)
      [.waits 0 .word none, .waits 0 .word none, .waits 0 .word none] 0
  obtain ⟨_, _, _, _, hears⟩ := end_reaches_everybody before calls 0
  have ended := ((comes fired).2 suspended).2 (by decide)
  have unsaid : (start.run before).coordinator.channel.sent = [] := by decide +kernel
  have told : ∃ j, ((start.run before).run calls).firings j = .done := ⟨0, by decide +kernel⟩
  obtain ⟨b, there, _, ends⟩ := (hears _ rfl).2 unsaid told
  have same : (start.run before).run calls = c := (List.foldl_append ..).symm
  rw [same] at there ends
  refine ⟨⟨suspended, by decide +kernel, ended⟩, b, there, ?_, ends⟩
  have receiver : (c.attendants 0).map (·.receiver) = some 0 := by decide +kernel
  rw [there, Option.map_some, Option.some.injEq] at receiver
  rw [receiver]
  decide +kernel

end Curfew

end Wiretap
