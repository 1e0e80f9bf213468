import Std.Async.Signal
import Std.Async.Timer
import Std.Sync.Channel
import Wiretap.CommandLine.Operation
import Wiretap.Live.Files
import Wiretap.Live.Sockets
/-! # The program in the real world

Whatever happens outside becomes an occurrence on one agenda. Occurrences are dealt with one after
another: the running program takes note of each, and then what it wants done is set going. What was
set going reports back as another occurrence.

A party is not listened to while what it sent before has not been taken, nor while something is
still being sent to the party across from it. So no more than one chunk of each direction is ever
held here.
-/

namespace Wiretap.Live

open Std.Async

/-- What happens outside. Wires and doors are known by serial numbers, since what comes of one may
arrive when another one has taken its place. -/
inductive Occurrence where
  /-- The settings file is to be looked at. -/
  | look
  | typed (line : Except IoFault Bytes)
  | signalled (signal : Signal)
  /-- A pause may be over. -/
  | woke (relay : Nat)
  | resolved (relay : Nat) (addresses : Option (List IpAddress))
  | dialled (relay : Nat) (address : SocketAddress) (result : Except Nat Outlet)
  | came (relay door : Nat) (result : Except Nat (Outlet × SocketAddress))
  | received (relay : Nat) (party : Direction) (wire : Nat) (result : Except Nat Bytes)
  | sent (relay : Nat) (party : Direction) (wire : Nat) (isDone : Bool)
  /-- A client of the counters' service has come. -/
  | called (result : Except Nat (Outlet × SocketAddress))
  | asked (client : Outlet) (request : Bytes)
  /-- Something was done of which nothing follows. -/
  | nothing
  deriving Inhabited

/-- A connection between a party and the program. -/
structure Wire where
  serial : Nat
  outlet : Outlet
  isReceiving : Bool := false
  isSending : Bool := false
  /-- Whether the party has nothing more to send. -/
  hasEnded : Bool := false
  /-- Whether the party will be sent nothing more. -/
  isFinished : Bool := false

/-- What is open outside for a relay. -/
structure Desk where
  door : Option (Nat × Door) := none
  isLettingIn : Bool := false
  client : Option Wire := none
  server : Option Wire := none
  /-- Whether an errand is under way. -/
  isOut : Bool := false
  /-- Whether somebody waits for a pause to end. -/
  isResting : Bool := false
  deriving Inhabited

def Desk.wire? (d : Desk) : Direction → Option Wire
  | .client => d.client
  | .server => d.server

def Desk.setWire (d : Desk) (wire : Option Wire) : Direction → Desk
  | .client => { d with client := wire }
  | .server => { d with server := wire }

def across : Direction → Direction
  | .client => .server
  | .server => .client

/-- The running program, with what is open outside. -/
structure Office where
  agenda : Std.Channel Occurrence
  operation : IO.Ref Operation
  desks : IO.Ref (Array Desk)
  /-- The number of wires and doors so far. -/
  serials : IO.Ref Nat
  /-- Where the counters are served. -/
  service : Option Door
  /-- When the program began, in nanoseconds. -/
  began : Nat
  /-- What the settings file was last seen with. -/
  seen : IO.Ref (Option Bytes)

abbrev Duty := ReaderT Office IO

/-! ## The running program -/

/-- Write to the capture file. A file that cannot be written is full from then on. -/
def capture (path : String) (bytes : Bytes) : Duty Unit := do
  try append path bytes
  catch _ => (← read).operation.modify (·.onDisk (·.putAt path .full))

/-- Print what there is to print, and write what was captured to its file. -/
def carryOut : Duty Unit := do
  let operation := (← read).operation
  let text ← operation.modifyGet (·.takeOutput)
  unless text.isEmpty do
    IO.print text
    (← IO.getStdout).flush
  if let some path := (← operation.get).capturePath? then
    let bytes ← operation.modifyGet (·.takeCaptured path)
    unless bytes.isEmpty do capture path bytes

def elapsed : Duty Span := return ⟨(← IO.monoNanosNow) - (← read).began⟩

def stamp : IO Stamp :=
  return ⟨(← Std.Time.Timestamp.now).toMillisecondsSinceUnixEpoch.toInt.toNat⟩

def happen (f : Operation → Operation) : Duty Unit := do
  let now ← elapsed
  let stamp ← stamp
  (← read).operation.modify fun o => f (o.clock now stamp)
  carryOut

def tell (relay : Nat) (f : Envoy → Envoy) : Duty Unit := happen (·.onEnvoy relay f)

def envoy? (relay : Nat) : Duty (Option Envoy) := return (← (← read).operation.get).envoy? relay

def desk (relay : Nat) : Duty Desk := return (← (← read).desks.get)[relay]?.getD {}

def onDesk (relay : Nat) (f : Desk → Desk) : Duty Unit := do (← read).desks.modify (·.modify relay f)

def onWire (relay : Nat) (party : Direction) (f : Wire → Wire) : Duty Unit :=
  onDesk relay fun d => d.setWire ((d.wire? party).map f) party

def newSerial : Duty Nat := do (← read).serials.modifyGet fun n => (n, n + 1)

/-! ## Setting things going -/

def post (o : Occurrence) : Duty Unit := do discard ((← read).agenda.send o)

/-- Begin something, whose result becomes an occurrence. -/
def begin (work : Async α) (occurrence : Except Nat α → Occurrence) : Duty Unit := do
  let agenda := (← read).agenda
  let task ← work.toIO
  discard <| BaseIO.mapTask (t := task) fun result =>
    discard (agenda.send (occurrence (result.mapError errorNumber)))

def connect (relay : Nat) (party : Direction) (outlet : Outlet) : Duty Unit := do
  let serial ← newSerial
  onDesk relay (·.setWire (some { serial, outlet }) party)

/-- Carry out what a party is to get. -/
def deliver (relay : Nat) (party : Direction) : Duty Unit := do
  let delivery ← (← read).operation.modifyGet (·.collect relay party)
  if let some wire := (← desk relay).wire? party then
    unless delivery.bytes.isEmpty do
      onWire relay party ({ · with isSending := true })
      begin (send wire.outlet delivery.bytes) fun result => .sent relay party wire.serial result.isOk
    if delivery.isLast && !wire.isFinished then
      onWire relay party ({ · with isFinished := true })
      begin wire.outlet.shutdown fun _ => .nothing
    if delivery.isClosed then
      stopReceiving wire.outlet
      onDesk relay (·.setWire none party)

/-- Keep a door only while a client may come, and let a client in there. -/
def keepDoor (relay : Nat) (e : Envoy) : Duty Unit := do
  let desk ← desk relay
  if let some (serial, door) := desk.door then
    if !e.isAwaiting then
      stopLettingIn door
      onDesk relay ({ · with door := none, isLettingIn := false })
    else if !desk.isLettingIn then
      onDesk relay ({ · with isLettingIn := true })
      begin (letIn door) (.came relay serial)

/-- Run an errand. -/
def run (relay : Nat) : Errand → Duty Unit
  | .resolve host =>
    match IpAddress.ofText? host with
    | some ip => post (.resolved relay (some [ip]))
    | none => begin (resolve host) fun result => .resolved relay result.toOption
  | .dial address => begin (dial address) (.dialled relay address)
  | .openDoor address => do
    let serial ← newSerial
    try
      let door ← openDoor address
      onDesk relay ({ · with door := some (serial, door) })
      tell relay (·.opened (.ok ()))
    catch e => tell relay (·.opened (.error (errorNumber e)))
    onDesk relay ({ · with isOut := false })
    post (.woke relay)

/-- Run the errand of a relay, if there is one. -/
def runErrand (relay : Nat) (e : Envoy) : Duty Unit := do
  if let some errand := e.errand? then
    unless (← desk relay).isOut do
      onDesk relay ({ · with isOut := true })
      run relay errand

def listen (relay : Nat) (e : Envoy) (party : Direction) : Duty Unit := do
  let desk ← desk relay
  if let some wire := desk.wire? party then
    let isBusy := ((desk.wire? (across party)).map (·.isSending)).getD false
    if !wire.isReceiving && !wire.hasEnded && !isBusy && e.isHungry party then
      onWire relay party ({ · with isReceiving := true })
      begin (receive wire.outlet e.supervisor.relay.bufferSize)
        (.received relay party wire.serial)

def longestSleep : Nat := 3600000

def rest (relay : Nat) (e : Envoy) : Duty Unit := do
  if let some wakes := e.wakes? then
    let left := (wakes - e.scene.now).nanoseconds
    unless left = 0 || (← desk relay).isResting do
      onDesk relay ({ · with isResting := true })
      let milliseconds := min longestSleep ((left + 999999) / 1000000)
      begin (sleep (.ofNat milliseconds)) fun _ => .woke relay

/-- Do all that is to be done for a relay. -/
def attend (relay : Nat) : Duty Unit := do
  deliver relay .client
  deliver relay .server
  happen id
  if let some e ← envoy? relay then
    keepDoor relay e
    runErrand relay e
    listen relay e .client
    listen relay e .server
    rest relay e

/-! ## Occurrences -/

def isCurrent (relay : Nat) (party : Direction) (serial : Nat) : Duty Bool :=
  return ((← desk relay).wire? party).any (·.serial == serial)

def lookInterval : Nat := 500

/-- Look at the settings file, and make room on the disk for a capture file that it may name. -/
def lookAtSettings : Duty Unit := do
  let office ← read
  if let some h := (← office.operation.get).hotReload then
    let content ← content? h.watcher.path
    if content != (← office.seen.get) then
      office.seen.set content
      if let some (.ok s) := (content.bind Bytes.toText?).map Settings.ofText then
        let disk ← surveyFor s.inspector (← office.operation.get).scene.station.disk
        office.operation.modify (·.onDisk fun _ => disk)
      happen (·.noticed content)
      if let some path := (← office.operation.get).capturePath? then capture path []
    begin (sleep (.ofNat lookInterval)) fun _ => .look

/-- Read a line, which ends the input if it is empty. -/
def readLine (input : IO.FS.Stream) : IO Bytes := do
  let mut line := #[]
  repeat
    match (← input.read 1).data[0]? with
    | none => break
    | some octet =>
      line := line.push octet
      if octet = Console.newline then break
  return line.toList

/-- Wait for a line on the console while it is open. -/
def awaitLine : Duty Unit := do
  let office ← read
  if (← office.operation.get).hasConsole then
    let input ← IO.getStdin
    let work : IO Unit := do
      let line ← try pure (.ok (← readLine input)) catch e => pure (.error (fault e))
      discard (office.agenda.send (.typed line))
    discard <| IO.asTask work .dedicated

def awaitCall : Duty Unit := do
  if let some door := (← read).service then begin (letIn door) .called

def awaitSignal (signal : Signal) (number : Std.Async.Signal) : Duty Unit := do
  let waiter ← Signal.Waiter.mk number false
  begin (do await (← waiter.wait)) fun _ => .signalled signal

/-- Deal with an occurrence. -/
def handle : Occurrence → Duty Unit
  | .look => lookAtSettings
  | .typed line => do
    match line with
    | .ok line => happen (·.typed line)
    | .error fault => happen (·.consoleFailed fault)
    awaitLine
  | .signalled signal => happen (·.signalled signal)
  | .woke relay => do
    onDesk relay ({ · with isResting := false })
    attend relay
  | .resolved relay addresses => do
    onDesk relay ({ · with isOut := false })
    tell relay (·.resolved addresses)
    attend relay
  | .dialled relay address result => do
    onDesk relay ({ · with isOut := false })
    if let .ok outlet := result then connect relay .server outlet
    tell relay (·.dialled address (result.map fun _ => ()))
    attend relay
  | .came relay serial result => do
    if ((← desk relay).door).any (·.1 == serial) then
      match result with
      | .ok (outlet, origin) =>
        connect relay .client outlet
        tell relay (·.admitClient origin)
      | .error number => tell relay (·.notAdmitted number)
      attend relay
  | .received relay party serial result => do
    if ← isCurrent relay party serial then
      let hasEnded := (result.toOption.getD []).isEmpty
      onWire relay party ({ · with isReceiving := false, hasEnded })
      match result with
      | .ok [] => tell relay (·.finish party)
      | .ok bytes => tell relay (·.send party bytes)
      | .error _ => tell relay (·.breakOff party)
      attend relay
  | .sent relay party serial isDone => do
    if ← isCurrent relay party serial then
      onWire relay party ({ · with isSending := false })
      unless isDone do tell relay (·.breakOff party)
    attend relay
  | .called result => do
    if let .ok (client, _) := result then
      begin (receive client CounterService.readSize) fun result =>
        result.toOption.elim .nothing (.asked client)
    awaitCall
  | .asked client request => do
    if let some answer := (← (← read).operation.get).answer? request then
      begin (do send client (Bytes.ofText answer); client.shutdown) fun _ => .nothing
  | .nothing => return

/-! ## From the beginning to the end -/

/-- The door of the counters' service, or why it cannot be opened. -/
def openService (s : Settings) : IO (Option Door × Except IoFault Unit) := do
  if s.metrics.enabled then
    try return (some (← openDoor s.metrics.bindAddress), .ok ())
    catch e => return (none, .error (fault e))
  else return (none, .ok ())

/-- Tokens for sessions, which count on from a random number. -/
def sessionTokens : IO (Nat → String) := do
  let seed := (← IO.getRandomBytes 16).data.foldl (fun n octet => n * 256 + octet.toNat) 0
  let count := Word.count64 * Word.count64
  return fun n => String.ofList (Nat.toDigits 16 (count + (seed + n) % count)).tail

/-- Deal with occurrences until the program is over. -/
def work (office : Office) : IO Unit := do
  repeat
    if (← office.operation.get).isOver then break
    (handle (← office.agenda.sync.recv)).run office

/-- Run a program that has started to its end. -/
def runToEnd (p : Program.Setup) : IO Unit := do
  let token ← sessionTokens
  let (service, opened) ← openService p.settings
  let operation := Operation.start p token opened
  let office : Office :=
    { agenda := ← Std.Channel.new
      operation := ← IO.mkRef operation
      desks := ← IO.mkRef (Array.replicate operation.envoys.length {})
      serials := ← IO.mkRef 0
      service
      began := ← IO.monoNanosNow
      seen := ← IO.mkRef (operation.hotReload.bind (·.content?)) }
  let opening : Duty Unit := do
    carryOut
    awaitSignal .terminate .sigterm
    awaitSignal .interrupt .sigint
    awaitLine
    awaitCall
    post .look
    for relay in [0:operation.envoys.length] do post (.woke relay)
  opening.run office
  work office

end Wiretap.Live
