import Mathlib.Data.List.Basic
import Wiretap.Broadcast
/-! # What a receiver gets

Either there is nothing new, or the receiver has missed some messages and is moved on to the oldest
one that is kept, or it gets the next message.
-/

namespace Wiretap

namespace Broadcast

variable {c : Broadcast α} {receiver : Nat}

/-- What a receiver can get from a channel, and where it is then. -/
inductive Receives (c : Broadcast α) (receiver : Nat) : Received α × Nat → Prop where
  | empty (all : c.sent.length ≤ receiver) : Receives c receiver (.empty, receiver)
  | lagged (behind : receiver < c.oldest) :
      Receives c receiver (.lagged (c.oldest - receiver), c.oldest)
  | message {message : α} (kept : c.oldest ≤ receiver) (next : c.sent[receiver]? = some message) :
      Receives c receiver (.message message, receiver + 1)

theorem receive_receives (c : Broadcast α) (receiver : Nat) :
    c.Receives receiver (c.receive receiver) := by
  unfold receive
  split
  · rename_i behind
    exact .lagged behind
  · rename_i kept
    cases next : c.sent[receiver]? with
    | some message => exact .message (Nat.le_of_not_lt kept) next
    | none => exact .empty (List.getElem?_eq_none_iff.mp next)

theorem receive_eq_empty_iff (c : Broadcast α) (receiver : Nat) :
    (c.receive receiver).1 = .empty ↔ c.sent.length ≤ receiver := by
  have receives := c.receive_receives receiver
  generalize c.receive receiver = r at receives
  cases receives with
  | empty all => simp [all]
  | lagged behind =>
      simp only [oldest] at behind
      simp only [reduceCtorEq, false_iff]
      omega
  | message kept next =>
      have within := (List.getElem?_eq_some_iff.mp next).1
      simp only [reduceCtorEq, false_iff]
      omega

theorem mem_of_receive {next : Nat} {message : α}
    (received : c.receive receiver = (.message message, next)) : message ∈ c.sent := by
  have receives := c.receive_receives receiver
  rw [received] at receives
  cases receives with
  | message _ next => exact List.mem_of_getElem? next

end Broadcast

end Wiretap
