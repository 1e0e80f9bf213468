import Wiretap.Bytes
import Wiretap.IoFault
/-! # Files and folders

A disk holds folders and files by the names on the way to them. A path starts at the root when it
begins with a slash, and in the working folder otherwise. Two devices are always there: one that
swallows whatever is written, and one that is always full.
-/

namespace Wiretap

/-- The names on the way to a place. An absolute path begins with the root's name, a slash. -/
abbrev Route := List String

/-- What is at a place. -/
inductive Place where
  | folder
  | file (content : Bytes)
  /-- A device that swallows whatever is written and holds nothing. -/
  | sink
  /-- A device that has no room. -/
  | full
  deriving Repr, DecidableEq, BEq

namespace Route

def longestName : Nat := 255

def longestPath : Nat := 4095

/-- Add a name to a way: a dot stays, two dots go back. -/
def push (way : Route) (name : String) : Route :=
  if name == "." then way
  else if name == ".." then (if way == ["/"] then way else way.dropLast)
  else way ++ [name]

def origin (path : String) : Route := if path.startsWith "/" then ["/"] else []

def names (path : String) : List String := (path.splitOn "/").filter (!·.isEmpty)

/-- Why a path is refused before anything is looked up. -/
def fault? (path : String) : Option IoFault :=
  if path.contains (Char.ofNat 0) then some .nulInName
  else if path.isEmpty then some (.system Errno.noEntry)
  else if Bytes.lengthOf path > longestPath then some (.system Errno.nameTooLong)
  else none

end Route

def insistsOnFolder (path : String) : Bool := path.endsWith "/"

/-- The places of a disk other than the working folder and the root. -/
structure Disk where
  places : List (Route × Place)
  deriving Repr, DecidableEq, BEq

namespace Disk

def systemFolders : List String :=
  ["bin", "boot", "dev", "etc", "home", "lib", "media", "mnt", "opt", "proc", "root", "run", "sbin",
   "srv", "sys", "tmp", "usr", "var"]

/-- A disk with nothing but the system's folders and the devices. -/
def blank : Disk where
  places :=
    systemFolders.map (fun name => (["/", name], .folder)) ++
      [(["/", "dev", "null"], .sink), (["/", "dev", "full"], .full)]

def at? (d : Disk) (way : Route) : Option Place :=
  if way.isEmpty || way == ["/"] then some .folder else d.places.lookup way

def put (d : Disk) (way : Route) (place : Place) : Disk :=
  if d.places.any (·.1 == way) then
    ⟨d.places.map fun p => if p.1 == way then (way, place) else p⟩
  else ⟨d.places ++ [(way, place)]⟩

def remove (d : Disk) (way : Route) : Disk := ⟨d.places.filter (·.1 != way)⟩

def folder (d : Disk) (way : Route) : Except IoFault Route :=
  match d.at? way with
  | some .folder => .ok way
  | some _ => .error (.system Errno.notDirectory)
  | none => .error (.system Errno.noEntry)

/-- Go on from a folder by a name. Nothing need be there. -/
def follow (d : Disk) (way : Route) (name : String) : Except IoFault Route := do
  let way ← d.folder way
  if Bytes.lengthOf name > Route.longestName then throw (.system Errno.nameTooLong)
  return way.push name

/-- Follow some names from where a path starts. -/
def walk (d : Disk) (path : String) (names : List String) : Except IoFault Route :=
  match Route.fault? path with
  | some fault => .error fault
  | none => names.foldlM d.follow (Route.origin path)

/-- The way that a path describes, when nothing is in its way. -/
def wayTo (d : Disk) (path : String) : Except IoFault Route := d.walk path (Route.names path)

/-- Make a folder unless something is there already. -/
def provide (d : Disk) (way : Route) : Disk := if (d.at? way).isSome then d else d.put way .folder

/-- Follow a name, and make the folder that it is followed from when it is missing. -/
def pave (r : Disk × Route) (name : String) : Except IoFault (Disk × Route) := do
  let d := r.1.provide r.2
  return (d, ← d.follow r.2 name)

/-- Put something at a path, with the folders that are missing on the way. When something is in the
way, nothing happens. -/
def putAt (d : Disk) (path : String) (place : Place) : Disk :=
  match (Route.names path).foldlM pave (d, Route.origin path) with
  | .ok (d, way) => d.put way place
  | .error _ => d

def removeAt (d : Disk) (path : String) : Disk :=
  ((d.wayTo path).map d.remove).toOption.getD d

def find (d : Disk) (path : String) : Except IoFault Place := do
  let way ← d.wayTo path
  match d.at? way with
  | none => throw (.system Errno.noEntry)
  | some .folder => return .folder
  | some place => if insistsOnFolder path then throw (.system Errno.notDirectory) else return place

def exists? (d : Disk) (path : String) : Bool := (d.find path).isOk

def read (d : Disk) (path : String) : Except IoFault Bytes := do
  match ← d.find path with
  | .folder => throw (.system Errno.isDirectory)
  | .file content => return content
  | .sink | .full => return []

/-- Open the file at a path for appending; it is made when it is missing. A folder cannot be made. -/
def openToAppend (d : Disk) (path : String) : Except IoFault Disk := do
  if insistsOnFolder path then
    discard (d.folder (← d.walk path (Route.names path).dropLast))
    throw (.system Errno.isDirectory)
  let way ← d.wayTo path
  match d.at? way with
  | some .folder => throw (.system Errno.isDirectory)
  | some _ => return d
  | none => return d.put way (.file [])

def append (d : Disk) (path : String) (bytes : Bytes) : Except IoFault Disk := do
  let way ← d.wayTo path
  match d.at? way with
  | some (.file content) => return d.put way (.file (content ++ bytes))
  | some .sink => return d
  | some .full => throw (.system Errno.noSpace)
  | some .folder => throw (.system Errno.isDirectory)
  | none => throw (.system Errno.noEntry)

end Disk

/-! ## The text of a path -/

/-- What a path is made of: the root, the working folder where it begins with a dot, and names. Single
dots behind that and doubled slashes stand for nothing. -/
def pathComponents (path : String) : List String :=
  let names := (Route.names path).filter (· != ".")
  if path.startsWith "/" then "/" :: names
  else if (path.splitOn "/").head? = some "." then "." :: names
  else names

/-- Whether two paths are the same one, if spelled in different ways. -/
def samePath (a b : String) : Bool := pathComponents a = pathComponents b

/-- The text between slashes of a path, from its last name backwards. Empty texts and single dots
behind the last name stand for nothing. -/
def piecesBackwards (path : String) : List String :=
  let standsForNothing (piece : String) : Bool := piece.isEmpty || piece == "."
  match path.splitOn "/" with
  | [] => []
  | first :: more => more.reverse.dropWhile standsForNothing ++ [first]

/-- The path of the folder that a path's last name is in: the working folder's is empty. There is
none for the root and for the empty path. -/
def parentPath? (path : String) : Option String :=
  match piecesBackwards path with
  | [] | [""] => none
  | _ :: before =>
    let folder := (piecesBackwards ("/".intercalate before.reverse)).reverse
    some (if folder == [""] && path.startsWith "/" then "/" else "/".intercalate folder)

/-- The last name on a path, if that is a name: neither the root nor a way back. -/
def fileName? (path : String) : Option String :=
  match piecesBackwards path with
  | name :: _ => if ["", ".", ".."].contains name then none else some name
  | [] => none

end Wiretap
