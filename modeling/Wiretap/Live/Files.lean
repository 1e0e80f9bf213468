import Wiretap.CommandLine.Startup
/-! # The real disk

What a program has to know of the disk is looked up before it is needed: the settings file with its
content, and whether there is a place for a capture file. Captured records are appended to the real
file.
-/

namespace Wiretap.Live

/-- The number that the system gave an error. Numbers from sockets come with the sign changed. -/
def errorNumber (e : IO.Error) : Nat :=
  let code : UInt32 := match e with
    | .alreadyExists _ code _ | .otherError code _ | .resourceBusy code _
    | .resourceVanished code _ | .unsupportedOperation code _ | .hardwareFault code _
    | .unsatisfiedConstraints code _ | .illegalOperation code _ | .protocolError code _
    | .timeExpired code _ | .interrupted _ code _ | .noFileOrDirectory _ code _
    | .invalidArgument _ code _ | .permissionDenied _ code _ | .resourceExhausted _ code _
    | .inappropriateType _ code _ | .noSuchThing _ code _ => code
    | .unexpectedEof | .userError _ => 5
  if code < 0x80000000 then code.toNat else (0 - code).toNat

def fault (e : IO.Error) : IoFault := .system (errorNumber e)

/-- The content of a file, if there is one that can be read. -/
def content? (path : String) : IO (Option Bytes) := do
  try return some (← IO.FS.readBinFile path).data.toList
  catch _ => return none

/-- What an open file turns out to be: a folder opens, too, but cannot be read. -/
def opened? (path : String) (file : IO.FS.Handle) (wantsContent : Bool) : IO (Option Place) := do
  try
    discard <| file.read 1
    if wantsContent then return (← content? path).map .file else return some (.file [])
  catch e =>
    return if errorNumber e = Errno.isDirectory then some .folder else none

/-- What is at a path. The content of a file is only looked at if that is wanted. -/
def place? (path : String) (wantsContent : Bool) : IO (Option Place) := do
  try opened? path (← IO.FS.Handle.mk path .read) wantsContent
  catch _ => return none

def beginnings (path : String) : List String :=
  let names := path.splitOn "/"
  (List.range names.length).map fun n => "/".intercalate (names.take (n + 1))

/-- A disk with what there is on the way to a path, and at the path. -/
def survey (path : String) (wantsContent : Bool) (disk : Disk) : IO Disk :=
  (beginnings path).foldlM (fun disk part => do
    match disk.wayTo part with
    | .error _ => return disk
    | .ok way =>
      if (disk.at? way).isSome then return disk
      else
        match ← place? part (wantsContent && part == path) with
        | some place => return disk.put way place
        | none => return disk) disk

/-- A disk with what a choice of an inspector has to do with. -/
def surveyFor (choice : InspectorChoice) (disk : Disk) : IO Disk :=
  match choice with
  | .capture path => survey path false disk
  | _ => return disk

def startDisk (arguments : List String) (environment : Environment) : IO Disk := do
  match Request.ofArguments arguments with
  | .ok (.run a) =>
    let disk ← survey a.config true .blank
    match Program.settings disk environment a with
    | .ok s => surveyFor s.inspector disk
    | .error _ => return disk
  | _ => return .blank

/-- The environment of the process, as far as the program looks at it. -/
def environment : IO Environment := do
  let names := Program.filterVariable :: Variable.all.map Variable.name
  let values ← names.mapM fun name => return (name, ← IO.getEnv name)
  return fun name => (values.lookup name).join

/-- Append to a file, which is made when it is missing. -/
def append (path : String) (bytes : Bytes) : IO Unit := do
  let file ← IO.FS.Handle.mk path .append
  file.write ⟨bytes.toArray⟩
  file.flush

end Wiretap.Live
