import Wiretap.Bytes
/-! # The status of a supervised relay

What a supervisor publishes: where it is in its cycle of attempts, how many attempts it has begun,
how many sessions it has completed, and what went wrong last.
-/

namespace Wiretap

/-- Where a supervisor is in its cycle. -/
inductive RelayState where
  | idle | connecting | relaying | tearingDown
  deriving Repr, DecidableEq, BEq

def RelayState.name : RelayState → String
  | .idle => "idle"
  | .connecting => "connecting"
  | .relaying => "relaying"
  | .tearingDown => "tearing_down"

def RelayState.ofName? : String → Option RelayState
  | "idle" => some .idle
  | "connecting" => some .connecting
  | "relaying" => some .relaying
  | "tearing_down" => some .tearingDown
  | _ => none

/-- The published status. -/
structure Status where
  localPort : UInt16
  state : RelayState
  /-- Attempts begun so far, the current one included. -/
  attempt : UInt64
  /-- Sessions that relayed and have ended. -/
  sessionsCompleted : UInt64
  lastError : Option String
  deriving Repr, DecidableEq, BEq

namespace Status

def initial (localPort : UInt16) : Status := ⟨localPort, .idle, 0, 0, none⟩

def padded (width : Nat) (text : String) : String :=
  text ++ String.ofList (List.replicate (width - text.length) ' ')

def line (s : Status) : String :=
  let error := match s.lastError with
    | some e => s!" last error: {e}"
    | none => ""
  s!"port {padded 5 (toString s.localPort.toNat)} {padded 12 s.state.name} " ++
    s!"attempt {padded 6 (toString s.attempt.toNat)} " ++
    s!"sessions {toString s.sessionsCompleted.toNat}{error}\n"

def report (statuses : List Status) : String :=
  if statuses.isEmpty then "no relays configured\n" else String.join (statuses.map line)

end Status

end Wiretap
