import Wiretap.Broadcast
import Wiretap.Failure
import Wiretap.Journal
/-! # Shutdown

Whoever wants the program to end fires the coordinator: first its flag is set, then everybody who
listens is told. Waiting for the end means to subscribe, to look at the flag, and then to take what
comes: the end of the signal listener, which is listened to once, or the word that the coordinator
was fired, also when words were missed.
-/

namespace Wiretap

/-- The coordinator, which all its users share. -/
structure Coordinator where
  isTriggered : Bool
  channel : Broadcast Unit
  deriving Repr, DecidableEq, BEq

namespace Coordinator

def start : Coordinator := ⟨false, .blank 1⟩

def raise (c : Coordinator) : Coordinator := { c with isTriggered := true }

def announce (c : Coordinator) : Coordinator := { c with channel := c.channel.send () }

def trigger (c : Coordinator) : Coordinator := c.raise.announce

end Coordinator

/-- Where somebody who waits for the end is. -/
inductive Waiting where
  /-- About to subscribe. -/
  | subscribing
  /-- About to look at the flag. -/
  | checking (receiver : Nat)
  /-- Waiting for a word or, while `isListening`, for the signal listener to end. -/
  | selecting (receiver : Nat) (isListening : Bool)
  | returned
  deriving Repr, DecidableEq, BEq

/-- How the signal listener ended. -/
inductive ListenerEnd where
  | fine
  | failed (fault : Failure)
  deriving Repr, DecidableEq, BEq

namespace Waiting

def subscribe (c : Coordinator) : Waiting → Waiting
  | .subscribing => .checking c.channel.subscribe
  | w => w

def check (c : Coordinator) : Waiting → Waiting
  | .checking receiver => if c.isTriggered then .returned else .selecting receiver true
  | w => w

def listenerEntry (fault : Failure) : Entry :=
  .error .shutdown s!"Error setting up signal handlers, waiting for console quit: {fault.message}"

def requestedEntry : Entry := .info .shutdown "Shutdown requested"

/-- Take note that the signal listener ended. It is not listened to again. -/
def hear (e : ListenerEnd) : Waiting → Waiting × Journal
  | .selecting receiver true =>
    (.selecting receiver false,
      match e with
      | .fine => []
      | .failed fault => [listenerEntry fault])
  | w => (w, [])

/-- Look for a word. A word that was missed counts as one. -/
def take (c : Coordinator) : Waiting → Waiting × Journal
  | .selecting receiver isListening =>
    match c.channel.receive receiver with
    | (.empty, _) => (.selecting receiver isListening, [])
    | _ => (.returned, [requestedEntry])
  | w => (w, [])

end Waiting

/-- A signal that ends the process. -/
inductive Signal where
  | terminate | interrupt
  deriving Repr, DecidableEq, BEq

def Signal.name : Signal → String
  | .terminate => "SIGTERM"
  | .interrupt => "SIGINT"

/-- What a signal listener does. -/
inductive SignalListener where
  /-- Nothing, ever. -/
  | silent
  | ends (result : ListenerEnd)
  /-- Fires the coordinator and ends. -/
  | fires
  /-- Waits for a signal of the process, fires the coordinator then and ends. -/
  | process
  deriving Repr, DecidableEq, BEq

/-- What the journal says when the process's signals are listened to. -/
def Signal.listenEntry : Entry := .info .shutdown "Starting shutdown signal listener"

def Signal.receivedEntry (s : Signal) : Entry :=
  .info .shutdown s!"Received {s.name}, shutting down"

/-- Listen once: the coordinator from then on, what the journal says, and the end if there is one. -/
def SignalListener.poll (c : Coordinator) :
    SignalListener → Coordinator × Journal × Option ListenerEnd
  | .silent => (c, [], none)
  | .ends result => (c, [], some result)
  | .fires => (c.trigger, [], some .fine)
  | .process => (c, [Signal.listenEntry], none)

/-- A wait that is over, or that has nothing to do but wait. -/
structure Wait where
  coordinator : Coordinator
  waiting : Waiting
  journal : Journal

namespace Wait

def take (w : Wait) : Wait :=
  let (waiting, entries) := w.waiting.take w.coordinator
  { w with waiting, journal := w.journal ++ entries }

/-- Let the signal listener go on if it is still listened to, then look for a word. -/
def listen (listener : SignalListener) (w : Wait) : Wait :=
  match w.waiting with
  | .selecting _ true =>
    let (coordinator, entries, ended?) := listener.poll w.coordinator
    let w := { w with coordinator, journal := w.journal ++ entries }
    match ended? with
    | none => w.take
    | some e =>
      let (waiting, entries) := w.waiting.hear e
      { w with waiting, journal := w.journal ++ entries }.take
  | _ => w.take

/-- Wait with a signal listener, until there is nothing to do but wait. -/
def start (c : Coordinator) (listener : SignalListener) : Wait :=
  listen listener ⟨c, (Waiting.subscribing.subscribe c).check c, []⟩

/-- Let the process get a signal. Once the wait is over nobody listens to it. -/
def signal (s : Signal) (w : Wait) : Wait :=
  match w.waiting with
  | .selecting _ true =>
    let (waiting, entries) := w.waiting.hear .fine
    { coordinator := w.coordinator.trigger, waiting
      journal := w.journal ++ [s.receivedEntry] ++ entries : Wait }.take
  | _ => w

/-- Fire the coordinator while somebody waits. -/
def trigger (w : Wait) : Wait :=
  if w.waiting = .returned then w else { w with coordinator := w.coordinator.trigger }.take

end Wait

end Wiretap
