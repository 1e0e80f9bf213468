import Wiretap.Inspect.Station
import Wiretap.Lane.Basic
/-! # Lanes over scripted devices

A source and a destination that do what scripts say, and a run of a lane over them to its end. A
script is consumed from its front: one read may pass over several items, a write or flush takes one.
Beyond the end of its script a source has ended and a destination accepts everything.
-/

namespace Wiretap

/-- What a scripted source does next. -/
inductive SourceItem where
  /-- Gives these octets, as many as are asked for at a time. -/
  | data (bytes : Bytes)
  | fault (fault : IoFault)
  /-- Has another inspector installed and goes on. -/
  | install (plan : Plan Inspector)
  /-- Fires the stop signal and goes on. -/
  | stop
  /-- Lets one read wait. -/
  | pause
  /-- Lets every read wait. -/
  | hang
  | eof

/-- What a scripted destination does with a write or a flush. -/
inductive SinkItem where
  /-- Accepts so many octets or all, and may fire the stop signal before. -/
  | accept (limit : Option Nat) (stops : Bool)
  | fault (fault : IoFault)
  | pause

/-- The state of scripted devices. -/
structure Bench where
  source : List SourceItem
  writes : List SinkItem
  flushes : List SinkItem
  shutdownFault : Option IoFault
  station : Station
  /-- How many octets the destination has accepted. -/
  delivered : Nat

namespace Bench

/-- What a read of at most `size` octets takes from a source's script. -/
structure Intake where
  value : Poll (Except IoFault Bytes)
  stops : Bool
  source : List SourceItem
  station : Station

/-- Read from a source's script. -/
def intake (size : Nat) (station : Station) (stops : Bool) : List SourceItem → Intake
  | [] => ⟨.ready (.ok []), stops, [], station⟩
  | .data bytes :: rest =>
    let left := bytes.drop size
    let source := if left.isEmpty then rest else .data left :: rest
    ⟨.ready (.ok (bytes.take size)), stops, source, station⟩
  | .fault fault :: rest => ⟨.ready (.error fault), stops, rest, station⟩
  | .install plan :: rest => intake size ((station.installPlan plan).toOption.getD station) stops rest
  | .stop :: rest => intake size station true rest
  | .pause :: rest => ⟨.pending, stops, rest, station⟩
  | .hang :: rest => ⟨.pending, stops, .hang :: rest, station⟩
  | .eof :: rest => ⟨.ready (.ok []), stops, rest, station⟩

def SinkItem.limit (size : Nat) : Option Nat → Nat
  | none => size
  | some n => min n size

/-- The items of a destination's script behind writes that are interrupted. -/
def skipInterrupted : List SinkItem → List SinkItem
  | [] => []
  | .fault fault :: rest =>
    if fault.isInterrupted then skipInterrupted rest else .fault fault :: rest
  | items => items

/-- The devices of a bench. -/
def devices : Devices Bench where
  read size b :=
    let t := intake size b.station false b.source
    ⟨t.value, t.stops, { b with source := t.source, station := t.station }⟩
  write bytes b :=
    let writes := skipInterrupted b.writes
    let b' := { b with writes := writes.tail }
    match writes.head?.getD (.accept none false) with
    | .accept limit stops =>
      let n := SinkItem.limit bytes.length limit
      ⟨.ready (.ok n), stops, { b' with delivered := b'.delivered + n }⟩
    | .fault fault => ⟨.ready (.error fault), false, b'⟩
    | .pause => ⟨.pending, false, b'⟩
  flush b :=
    let b' := { b with flushes := b.flushes.tail }
    match b.flushes.head?.getD (.accept none false) with
    | .accept _ stops => ⟨.ready (.ok ()), stops, b'⟩
    | .fault fault => ⟨.ready (.error fault), false, b'⟩
    | .pause => ⟨.pending, false, b'⟩
  shutdown b :=
    match b.shutdownFault with
    | some fault => ⟨.ready (.error fault), false, b⟩
    | none => ⟨.ready (.ok ()), false, b⟩
  inspect event b :=
    let r := b.station.inspect event b.delivered
    ⟨r.outcome.verdict, r.stopsSession, { b with station := r.station }⟩

/-- A bound for the steps of a lane over scripts that come to an end: every step but a few takes an
item or an octet from a script. -/
def stepBound (b : Bench) : Nat :=
  let octets := b.source.foldl (fun n item =>
    match item with
    | .data bytes => n + bytes.length
    | _ => n) 0
  3 * (octets + b.source.length) + b.writes.length + b.flushes.length + 8

end Bench

/-- A run of a lane: the last state, and the acts, the newest first. -/
structure LaneRun (ω : Type) where
  lane : Lane
  stopped : Bool
  world : ω
  acts : List Act

namespace LaneRun

def start (setup : LaneSetup) (stopped : Bool) (world : ω) : LaneRun ω :=
  ⟨.start setup, stopped, world, []⟩

def advance (devices : Devices ω) (r : LaneRun ω) : LaneRun ω :=
  let s := r.lane.step devices r.stopped r.world
  ⟨s.lane, s.stopped, s.world, s.acts.reverse ++ r.acts⟩

end LaneRun

namespace Lane

/-- Let a lane go on for a number of steps, or until it has ended. -/
def runFor (devices : Devices ω) : Nat → LaneRun ω → LaneRun ω
  | 0, r => r
  | n + 1, r =>
    match r.lane.phase with
    | .finished _ => r
    | _ => runFor devices n (r.advance devices)

def runOn (bench : Bench) (setup : LaneSetup) (stopped : Bool) : LaneRun Bench :=
  let r := runFor Bench.devices bench.stepBound (.start setup stopped bench)
  { r with acts := r.acts.reverse }

end Lane

end Wiretap
