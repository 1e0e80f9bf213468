import Wiretap.Traffic
/-! # Counters

Five families of counters, told apart by their labels. A counter comes into being when it is first
counted or asked for, and counts modulo `2 ^ 64`. Two label sets with the same text in a row are one
counter, which keeps the labels that it was made with.
-/

namespace Wiretap

/-- A family of counters, in alphabetical order. -/
inductive Family where
  | bytes | chunks | inspectionFailures | sessions | setupFailures
  deriving Repr, DecidableEq, BEq

namespace Family

def all : List Family := [.bytes, .chunks, .inspectionFailures, .sessions, .setupFailures]

def name : Family → String
  | .bytes => "relaytap_bytes_total"
  | .chunks => "relaytap_chunks_inspected_total"
  | .inspectionFailures => "relaytap_inspection_failures_total"
  | .sessions => "relaytap_sessions_total"
  | .setupFailures => "relaytap_setup_failures_total"

def help : Family → String
  | .bytes => "Bytes forwarded through the relay"
  | .chunks => "Chunks handed to the inspection hook"
  | .inspectionFailures => "Inspection hook calls that returned an error or panicked"
  | .sessions => "Relay sessions that reached the relaying state"
  | .setupFailures => "Relay attempts aborted before relaying (bind, accept or connect)"

/-- The names of a family's labels, in the order in which values are given. -/
def labelNames : Family → List String
  | .bytes | .chunks => ["port", "direction"]
  | .inspectionFailures | .sessions => ["port"]
  | .setupFailures => ["port", "kind"]

end Family

/-- One counter. -/
structure Counter where
  family : Family
  /-- The values of its labels. -/
  labels : List String
  value : UInt64
  deriving Repr, DecidableEq, BEq

def Counter.isFor (family : Family) (labels : List String) (c : Counter) : Bool :=
  c.family == family && String.join c.labels == String.join labels

abbrev Counters := List Counter

namespace Counters

def none : Counters := []

def add (family : Family) (labels : List String) (n : UInt64) : Counters → Counters
  | [] => [⟨family, labels, n⟩]
  | c :: rest =>
    if c.isFor family labels then { c with value := c.value + n } :: rest
    else c :: add family labels n rest

/-- The value of a counter; one that has never been counted is at zero. -/
def value (family : Family) (labels : List String) (cs : Counters) : UInt64 :=
  match cs.find? (Counter.isFor family labels) with
  | some c => c.value
  | Option.none => 0

def get (family : Family) (labels : List String) (cs : Counters) : UInt64 × Counters :=
  let cs := cs.add family labels 0
  (cs.value family labels, cs)

def portLabel (localPort : UInt16) : String := toString localPort.toNat

def recordSession (localPort : UInt16) (cs : Counters) : Counters :=
  cs.add .sessions [portLabel localPort] 1

def recordSetupFailure (localPort : UInt16) (kind : String) (cs : Counters) : Counters :=
  cs.add .setupFailures [portLabel localPort, kind] 1

def recordChunk (localPort : UInt16) (direction : Direction) (size : Nat) (cs : Counters) :
    Counters :=
  let labels := [portLabel localPort, direction.name]
  (cs.add .chunks labels 1).add .bytes labels size.toUInt64

def recordInspectionFailure (localPort : UInt16) (cs : Counters) : Counters :=
  cs.add .inspectionFailures [portLabel localPort] 1

end Counters

end Wiretap
