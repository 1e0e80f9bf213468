/-! # Broadcast channels

What is sent on a channel goes to every receiver that subscribed before. The channel keeps only the
newest messages, as many as its capacity: a receiver that has missed some is told how many, once, and
goes on with the oldest one that is kept.
-/

namespace Wiretap

/-- A channel. The history of its messages is kept in full; only the newest can be received. -/
structure Broadcast (α : Type) where
  capacity : Nat
  sent : List α
  deriving Repr, DecidableEq, BEq

/-- What a receiver gets. -/
inductive Received (α : Type) where
  | empty
  | lagged (missed : Nat)
  | message (value : α)
  deriving Repr, DecidableEq, BEq

namespace Broadcast

def blank (capacity : Nat) : Broadcast α := ⟨capacity, []⟩

def send (c : Broadcast α) (message : α) : Broadcast α := { c with sent := c.sent ++ [message] }

/-- A receiver of what is sent from now on. A receiver is the number of messages behind it. -/
def subscribe (c : Broadcast α) : Nat := c.sent.length

def oldest (c : Broadcast α) : Nat := c.sent.length - c.capacity

/-- What a receiver gets next, and the receiver from then on. -/
def receive (c : Broadcast α) (receiver : Nat) : Received α × Nat :=
  if receiver < c.oldest then (.lagged (c.oldest - receiver), c.oldest)
  else
    match c.sent[receiver]? with
    | some message => (.message message, receiver + 1)
    | none => (.empty, receiver)

end Broadcast

end Wiretap
