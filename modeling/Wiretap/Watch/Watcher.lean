import Wiretap.Broadcast
import Wiretap.Journal
import Wiretap.Settings.File
/-! # Watching a settings file

The watcher holds the settings that were loaded last and publishes new ones. It loads the file again
on request and when the file's folder reports a change. An update goes through three steps, between
which other updates may make theirs: load the file, store what was loaded, send it to subscribers.
-/

namespace Wiretap

/-- New settings, as they are published. -/
structure Change where
  settings : Settings
  path : String
  deriving Repr, DecidableEq, BEq

/-- A watcher, with the disk it watches and what its journal says. -/
structure Watcher where
  path : String
  disk : Disk
  current : Settings
  channel : Broadcast Change
  /-- How many receivers the channel has. -/
  subscribers : Nat
  journal : Journal
  deriving Repr, DecidableEq, BEq

/-- Why the file is loaded. -/
inductive UpdateCause where
  /-- Somebody asked for it. -/
  | request
  /-- The file was created or changed. -/
  | fileChange
  deriving Repr, DecidableEq, BEq

/-- How an update ended. -/
inductive UpdateResult where
  | published
  /-- The settings are the current ones already. -/
  | unchanged
  | failed (fault : Failure)
  deriving Repr, DecidableEq, BEq

/-- Where an update is. -/
inductive Update where
  | loading (cause : UpdateCause)
  | storing (settings : Settings)
  | sending (settings : Settings)
  | finished (result : UpdateResult)
  deriving Repr, DecidableEq, BEq

namespace Watcher

def channelCapacity : Nat := 128

def log (w : Watcher) (entries : Journal) : Watcher := { w with journal := w.journal ++ entries }

/-- Begin to watch the folder of a file whose settings have been loaded. -/
def watch (disk : Disk) (path : String) (current : Settings) : Except Failure Watcher :=
  match parentPath? path with
  | none => .error (.of (.noParentFolder path))
  | some folder =>
    if folder.isEmpty || disk.exists? folder then
      .ok ⟨path, disk, current, .blank channelCapacity, 0, []⟩
    else .error ⟨[.watching folder], .unwatchable⟩

def startEntry (w : Watcher) : Entry :=
  let folder := (parentPath? w.path).getD ""
  .info .watcher s!"Started watching configuration directory: {folder}"

/-- Watch the file at a path: its settings are loaded, and then its folder is watched. -/
def start (disk : Disk) (path : String) : Except Failure Watcher := do
  let w ← watch disk path (← Settings.load disk path)
  return w.log (Settings.loadJournal disk path ++ [w.startEntry])

def subscribe (w : Watcher) : Watcher × Nat :=
  ({ w with subscribers := w.subscribers + 1 }, w.channel.subscribe)

def unsubscribe (w : Watcher) : Watcher := { w with subscribers := w.subscribers - 1 }

def failureEntry (fault : Failure) : UpdateCause → Entry
  | .request => .error .watcher s!"Failed to reload configuration: {fault.message}"
  | .fileChange =>
    .error .watcher s!"Failed to reload configuration, keeping current config: {fault.message}"

def unheardEntry : Entry :=
  .warn .watcher "No subscribers for config change event: channel closed"

/-- One step of an update. -/
def advance (w : Watcher) : Update → Watcher × Update
  | .loading cause =>
    let loaded := w.log (Settings.loadJournal w.disk w.path)
    match Settings.load w.disk w.path with
    | .error fault => (loaded.log [failureEntry fault cause], .finished (.failed fault))
    | .ok settings =>
      match cause with
      | .request => (loaded, .storing settings)
      | .fileChange =>
        if w.current.sameAs settings then
          (loaded.log [.debug .watcher "Configuration content unchanged, ignoring event"],
            .finished .unchanged)
        else
          (loaded.log [.info .watcher "Configuration file changed, reloading..."],
            .storing settings)
  | .storing settings => ({ w with current := settings }, .sending settings)
  | .sending settings =>
    let sent := { w with channel := w.channel.send ⟨settings, w.path⟩ }
    let entries := if w.subscribers = 0 then [unheardEntry] else []
    (sent.log (entries ++ [.info .watcher "Configuration reloaded successfully"]),
      .finished .published)
  | .finished result => (w, .finished result)

/-- An update from its beginning to its end, without another one in between. -/
def update (w : Watcher) (cause : UpdateCause) : Watcher × UpdateResult :=
  let (w, u) := w.advance (.loading cause)
  let (w, u) := w.advance u
  let (w, u) := w.advance u
  match u with
  | .finished result => (w, result)
  | _ => (w, .published)

/-- Load the file again because somebody asked for it. -/
def reload (w : Watcher) : Watcher × Except Failure Unit :=
  let entry := Entry.info .watcher s!"Force reloading configuration from: {w.path}"
  match (w.log [entry]).update .request with
  | (w, .failed fault) => (w, .error fault)
  | (w, _) => (w, .ok ())

/-- What the folder reports of a file. -/
inductive FileEventKind where
  | changed | removed | other
  deriving Repr, DecidableEq, BEq

/-- Whether a report on the files at some paths is about the watched file. Only the name tells. -/
def isAbout (w : Watcher) (paths : List String) : Bool :=
  paths.any fun path => fileName? path = fileName? w.path

/-- Handle a report on the files at some paths: only the watched file matters. -/
def handle (w : Watcher) (paths : List String) (kind : FileEventKind) : Watcher :=
  if w.isAbout paths then
    match kind with
    | .changed => (w.update .fileChange).1
    | .removed => w.log [.warn .watcher s!"Configuration file was removed: {w.path}"]
    | .other => w
  else w

end Watcher

end Wiretap
