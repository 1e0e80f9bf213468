import Wiretap.CommandLine.Startup
import Wiretap.Console
import Wiretap.Counters.Service
import Wiretap.Shutdown.Coordinator
import Wiretap.Supervise.Envoy
import Wiretap.Time.Stamp
import Wiretap.Watch.HotReload
/-! # The running program

What a program holds while its relays run: the envoys of the relays, the station and the counters
that they share, the reloading of the settings, the console, and the wait for the end. All that
happens comes from outside, one thing after another; what there is to print is kept until somebody
takes it.
-/

namespace Wiretap

/-- A running program. -/
structure Operation where
  filter : JournalFilter
  /-- What the relays share. The halls that they see are the envoys' own. -/
  scene : Scene
  envoys : List Envoy
  hotReload : Option HotReload
  wait : Wait
  /-- Whether lines are read from the console. -/
  hasConsole : Bool
  /-- What is to be printed. -/
  output : String

namespace Operation

/-! ## Printing -/

def print (text : String) (o : Operation) : Operation := { o with output := o.output ++ text }

def report (j : Journal) (o : Operation) : Operation := o.print (o.filter.display j)

def reportStation (o : Operation) : Operation :=
  let station := o.scene.station
  { o with scene := { o.scene with station := station.silenced } }.report station.journal

/-! ## Waiting for the end -/

def stopEntry : Entry := .info .program "relaytap stopped"

def isOver (o : Operation) : Bool := o.wait.waiting = .returned

/-- Let something happen to the wait for the end. -/
def onWait (f : Wait → Wait) (o : Operation) : Operation :=
  if o.isOver then o
  else
    let w := f o.wait
    let o := { o with wait := { w with journal := [] } }.report w.journal
    if o.isOver then o.report [stopEntry] else o

def signalled (s : Signal) (o : Operation) : Operation := o.onWait (·.signal s)

/-! ## Beginning -/

/-- Begin to watch the settings file, if there is one. -/
def watchSettings (p : Program.Setup) (o : Operation) : Operation :=
  if p.disk.exists? p.arguments.config then
    match HotReload.start p.disk p.arguments.config p.settings with
    | .ok h => ({ o with hotReload := some h.silenced }).report h.watcher.journal
    | .error fault => o.report [HotReload.disabledEntry fault]
  else o

/-- Take note of what came of opening the counters' service, if there is to be one. -/
def noteService (p : Program.Setup) (opened : Except IoFault Unit) (o : Operation) : Operation :=
  if p.settings.metrics.enabled then
    o.report [CounterService.openEntry p.settings.metrics.bindAddress opened]
  else o

def openConsole (o : Operation) : Operation := if o.hasConsole then o.print Console.prompt else o

/-- A program that begins to run, with what came of opening the counters' service. Sessions are told
apart by tokens. -/
def start (p : Program.Setup) (token : Nat → String) (service : Except IoFault Unit) : Operation :=
  let scene := Scene.start {} (.start p.inspector p.disk "") token
  let wait := Wait.start .start .process
  let o : Operation :=
    { filter := p.filter
      scene
      envoys := p.settings.relays.map fun r => .start r scene
      hotReload := none
      wait := { wait with journal := [] }
      hasConsole := p.arguments.hasConsole
      output := "" }
  (((o.noteService p service).watchSettings p).report wait.journal).openConsole

/-! ## The console -/

/-- What the journal says about the console's end. Leaving it ends the program instead. -/
def consoleJournal : Console.Exit → Journal
  | .quit => []
  | .endOfInput =>
    [.debug .console "Control input closed",
     .info .program "Console input closed, relays keep running"]
  | .failed fault => [.error .program s!"Console error: {fault.message}"]

def closeConsole (exit : Console.Exit) (o : Operation) : Operation :=
  let o := { o with hasConsole := false }.report (consoleJournal exit)
  if exit = .quit then o.onWait Wait.trigger else o

def statuses (o : Operation) : List Status := o.envoys.map (·.supervisor.status)

/-- A line was typed with its end, or what came before the input ended. At the end nothing comes. -/
def typed (line : Bytes) (o : Operation) : Operation :=
  if !o.hasConsole then o
  else if line.isEmpty then o.closeConsole .endOfInput
  else
    match Console.handle o.statuses {} line with
    | .ended exit _ => o.closeConsole exit
    | .goesOn output => (o.print (output.written.toText?.getD "")).openConsole

def consoleFailed (fault : IoFault) (o : Operation) : Operation :=
  if o.hasConsole then o.closeConsole (.failed fault) else o

/-! ## Relays and settings -/

def clock (now : Span) (stamp : Stamp) (o : Operation) : Operation :=
  { o with scene := { o.scene with now, station := { o.scene.station with now := stamp.toText } } }

def envoy? (o : Operation) (relay : Nat) : Option Envoy := o.envoys[relay]?.map (·.enter o.scene)

/-- Let something happen to the envoy of a relay. -/
def onEnvoy (relay : Nat) (f : Envoy → Envoy) (o : Operation) : Operation :=
  match o.envoy? relay with
  | none => o
  | some e =>
    let e := f e
    { o with envoys := o.envoys.set relay e, scene := e.scene }.reportStation

def collect (relay : Nat) (party : Direction) (o : Operation) : Envoy.Delivery × Operation :=
  match o.envoy? relay with
  | none => (⟨[], true, true⟩, o)
  | some e =>
    let (delivery, e) := e.collect party
    (delivery, { o with envoys := o.envoys.set relay e })

/-- The settings file has another content now, or is gone. -/
def noticed (content : Option Bytes) (o : Operation) : Operation :=
  match o.hotReload with
  | none => o
  | some h =>
    let (h, station) := h.notice content o.scene.station
    { o with hotReload := some h, scene := { o.scene with station } }.reportStation

/-- The answer to what was read of a request to the counters' service. -/
def answer? (o : Operation) (read : Bytes) : Option String :=
  CounterService.answerRead? o.scene.counters read

/-! ## The capture file -/

def capturePath? (o : Operation) : Option String :=
  match o.scene.station.current.inspector with
  | .capture path => some path
  | _ => none

def onDisk (f : Disk → Disk) (o : Operation) : Operation :=
  { o with
    scene := { o.scene with station := { o.scene.station with disk := f o.scene.station.disk } } }

def takeOutput (o : Operation) : String × Operation := (o.output, { o with output := "" })

def takeCaptured (path : String) (o : Operation) : Bytes × Operation :=
  match o.scene.station.disk.read path with
  | .ok (octet :: octets) => (octet :: octets, o.onDisk (·.putAt path (.file [])))
  | _ => ([], o)

end Operation

end Wiretap
