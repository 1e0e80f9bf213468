import Wiretap.Inspect.Station
import Wiretap.Watch.Watcher
/-! # Applying new settings

The reloader applies published settings to a running program: a new inspector is built and
installed, new relays are only warned about. An inspector that cannot be built leaves the installed
one in place, and the same settings are tried again when they are published again.
-/

namespace Wiretap

/-- What the reloader has applied so far. -/
structure Reloader where
  inspector : InspectorChoice
  relays : List Relay
  deriving Repr, DecidableEq, BEq

/-- What applying settings came to. -/
structure Applied where
  reloader : Reloader
  station : Station
  /-- Whether another inspector was installed. -/
  result : Except Failure Bool

namespace Reloader

def start (s : Settings) : Reloader := ⟨s.inspector, s.relays⟩

def relaysEntry : Entry :=
  .warn .watcher "Relay configuration changed; restart relaytap to apply it"

def inspectorEntry (choice : InspectorChoice) : Entry :=
  .info .watcher "Inspector reloaded" [("inspector", .text choice.summary)]

/-- Apply settings. -/
def apply (r : Reloader) (station : Station) (s : Settings) : Applied :=
  let station := if s.relays = r.relays then station else station.log relaysEntry
  let r := { r with relays := s.relays }
  if s.inspector.sameAs r.inspector then ⟨r, station, .ok false⟩
  else
    match station.installPlan (.chosen s.inspector) with
    | .error fault => ⟨r, station, .error (fault.within .rebuildingInspector)⟩
    | .ok station =>
      ⟨{ r with inspector := s.inspector }, station.log (inspectorEntry s.inspector), .ok true⟩

/-- Apply what a subscription gave. Lagging behind is reported and nothing else. -/
def hear (r : Reloader) (station : Station) : Received Change → Reloader × Station
  | .empty => (r, station)
  | .lagged missed =>
    (r, station.log
      (.error .watcher s!"Error receiving configuration change: channel lagged by {missed}"))
  | .message change =>
    let entry := Entry.info .watcher s!"Applying configuration change from: {change.path}"
    let applied := r.apply (station.log entry) change.settings
    match applied.result with
    | .ok _ => (applied.reloader, applied.station)
    | .error fault =>
      (applied.reloader, applied.station.log
        (.error .watcher s!"Failed to apply configuration change: {fault.message}"))

/-- Apply all that a subscription has to give, at most so much. -/
def drain (channel : Broadcast Change) :
    Nat → Reloader → Station → Nat → Reloader × Station × Nat
  | 0, r, station, receiver => (r, station, receiver)
  | n + 1, r, station, receiver =>
    match channel.receive receiver with
    | (.empty, _) => (r, station, receiver)
    | (received, receiver) =>
      let (r, station) := r.hear station received
      drain channel n r station receiver

def catchUp (r : Reloader) (station : Station) (channel : Broadcast Change) (receiver : Nat) :
    Reloader × Station × Nat :=
  drain channel (channel.sent.length + 1) r station receiver

end Reloader

end Wiretap
