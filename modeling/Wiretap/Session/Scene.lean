import Wiretap.Inspect.Station
import Wiretap.Lane.Basic
import Wiretap.Net.Network
import Wiretap.Time.Span
/-! # The scene of sessions

What all relays share: the host, the station where traffic is inspected, the counters, and the
clock.
-/

namespace Wiretap

/-- The scene. -/
structure Scene where
  network : Network
  station : Station
  counters : Counters
  /-- How long the clock has run. -/
  now : Span
  /-- How many sessions there have been. -/
  sessions : Nat
  /-- What sets the name of each session apart, by its number. -/
  token : Nat → String

namespace Scene

/-- A scene where nothing has happened yet. -/
def start (network : Network) (station : Station) (token : Nat → String) : Scene :=
  ⟨network, station, .none, .zero, 0, token⟩

def log (s : Scene) (entries : Journal) : Scene :=
  { s with station := entries.foldl Station.log s.station }

def note (setup : LaneSetup) (s : Scene) (act : Act) : Scene :=
  { s with counters := act.count setup s.counters }.log (act.entry? setup).toList

def nameSession (s : Scene) (localPort : UInt16) : String × Scene :=
  (s!"relay_{localPort.toNat}_{s.token s.sessions}", { s with sessions := s.sessions + 1 })

/-- The devices of a lane that reads from one socket and writes to another. -/
def devices (source destination : Socket) : Devices Scene where
  read limit s :=
    let (value, network) := s.network.receive source limit
    ⟨value, false, { s with network }⟩
  write bytes s :=
    let (value, network) := s.network.offer destination bytes
    ⟨value, false, { s with network }⟩
  flush s := ⟨.ready (.ok ()), false, s⟩
  shutdown s := ⟨.ready (.ok ()), false, { s with network := s.network.shutdown destination }⟩
  inspect event s :=
    let r := s.station.inspect event 0
    ⟨r.outcome.verdict, r.stopsSession, { s with station := r.station }⟩

end Scene

end Wiretap
