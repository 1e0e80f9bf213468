import Wiretap.Watch.Reloader
/-! # Reloading settings while the program runs

The watcher of the settings file, wired to the reloader: what the watcher publishes is applied at
once. The reloader begins with the settings that the program runs with, which are those of the file
with the overrides in effect; the watcher begins with those of the file alone.
-/

namespace Wiretap

/-- A watcher, a reloader, and the place of the reloader in what the watcher publishes. -/
structure HotReload where
  watcher : Watcher
  reloader : Reloader
  receiver : Nat

namespace HotReload

/-- Watch the settings file of a program that runs with some settings. -/
def start (disk : Disk) (path : String) (running : Settings) : Except Failure HotReload := do
  let (watcher, receiver) := (← Watcher.start disk path).subscribe
  return ⟨watcher, .start running, receiver⟩

def content? (h : HotReload) : Option Bytes := (h.watcher.disk.read h.watcher.path).toOption

/-- The entry about a watcher that cannot begin. -/
def disabledEntry (fault : Failure) : Entry :=
  .warn .program s!"Configuration hot reload disabled: {fault.message}"

def silenced (h : HotReload) : HotReload := { h with watcher := { h.watcher with journal := [] } }

def tell (h : HotReload) (station : Station) : HotReload × Station :=
  (h.silenced, h.watcher.journal.foldl .log station)

def catchUp (h : HotReload) (station : Station) : HotReload × Station :=
  let (reloader, station, receiver) :=
    h.reloader.catchUp station h.watcher.channel h.receiver
  ({ h with reloader, receiver }, station)

/-- The file has another content now, or is gone. -/
def notice (h : HotReload) (content : Option Bytes) (station : Station) : HotReload × Station :=
  let path := h.watcher.path
  let disk := match content with
    | some bytes => h.watcher.disk.putAt path (.file bytes)
    | none => h.watcher.disk.removeAt path
  let kind := if content.isSome then .changed else .removed
  let watcher := { h.watcher with disk }.handle [path] kind
  let (h, station) := { h with watcher }.tell station
  h.catchUp station

end HotReload

end Wiretap
