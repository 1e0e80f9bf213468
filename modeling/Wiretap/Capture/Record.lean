import Wiretap.Failure
import Wiretap.Json.Field
import Wiretap.Number.Word
import Wiretap.Text.Base64
import Wiretap.Traffic
/-! # Records of captured chunks

A capture file holds one line per chunk, a JSON table whose data are the chunk in base 64. A line is
read back from a table with its keys in any order, or from an array of the values; unknown keys are
passed over.
-/

namespace Wiretap

/-- A captured chunk. -/
structure CaptureRecord where
  timestamp : String
  sessionId : String
  localPort : UInt16
  direction : Direction
  /-- The number of octets in the chunk. -/
  length : Nat
  /-- The chunk in base 64. -/
  data : String
  deriving Repr, DecidableEq, BEq

namespace CaptureRecord

def ofEvent (timestamp : String) (e : Event) : CaptureRecord where
  timestamp
  sessionId := e.sessionId
  localPort := e.localPort
  direction := e.direction
  length := e.chunk.length
  data := Text.Base64.encode e.chunk

def decode (r : CaptureRecord) : Except Failure Bytes :=
  match Text.Base64.decode? r.data with
  | some chunk => .ok chunk
  | none => .error ⟨[.decodingRecord], .garbledData⟩

/-! ## Writing -/

def key (name : String) : Bytes := Json.string name ++ [Json.code ':']

def digits (n : Nat) : Bytes := (Nat.toDigits 10 n).map Json.code

/-- The values of a record, each behind its key. -/
def entries (r : CaptureRecord) : List Bytes :=
  [key "timestamp" ++ Json.string r.timestamp,
   key "session_id" ++ Json.string r.sessionId,
   key "port" ++ digits r.localPort.toNat,
   key "direction" ++ Json.string r.direction.name,
   key "len" ++ digits r.length,
   key "data" ++ Json.string r.data]

/-- A record as a line of text, without its end. -/
def toLine (r : CaptureRecord) : Bytes :=
  Json.code '\x7b' :: [Json.code ','].intercalate r.entries ++ [Json.code '\x7d']

/-! ## Reading -/

open Json (Reader)

/-- The keys of a record. -/
inductive Key where
  | timestamp | sessionId | localPort | direction | length | data
  deriving Repr, DecidableEq, BEq

namespace Key

def all : List Key := [.timestamp, .sessionId, .localPort, .direction, .length, .data]

def name : Key → String
  | .timestamp => "timestamp"
  | .sessionId => "session_id"
  | .localPort => "port"
  | .direction => "direction"
  | .length => "len"
  | .data => "data"

def ofName? (name : String) : Option Key := all.find? (·.name == name)

end Key

def directionOf (name : String) : Except ShapeFault Direction :=
  match Direction.ofName? name with
  | some d => .ok d
  | none => .error (.unknownVariant name Direction.names)

/-- A direction: its name, or a table whose only key is its name and whose value is nothing. -/
def readDirection : Reader Direction := fun bytes =>
  match Json.skipSpace bytes with
  | [] => .error .truncated
  | b :: rest =>
    if b == 34 then do
      let (name, rest) ← Json.stringRest rest
      return (← (directionOf name).mapError .shape, rest)
    else if b == Json.code '\x7b' then do
      let (name, rest) ← match Json.skipSpace rest with
        | 34 :: rest => Json.stringRest rest
        | rest => Json.wrongType "variant identifier" rest
      let direction ← (directionOf name).mapError .shape
      let (_, rest) ← Json.nothing (← Json.mark ':' rest)
      return (direction, ← Json.mark '\x7d' rest)
    else throw .malformed

/-- The keys of a record that have been read. -/
structure Draft where
  timestamp : Option String := none
  sessionId : Option String := none
  localPort : Option UInt16 := none
  direction : Option Direction := none
  length : Option Nat := none
  data : Option String := none

namespace Draft

def holds (d : Draft) : Key → Bool
  | .timestamp => d.timestamp.isSome
  | .sessionId => d.sessionId.isSome
  | .localPort => d.localPort.isSome
  | .direction => d.direction.isSome
  | .length => d.length.isSome
  | .data => d.data.isSome

/-- Read the value of a key. -/
def read (d : Draft) (key : Key) : Reader Draft := fun bytes =>
  match key with
  | .timestamp => do
    let (v, rest) ← Json.text bytes
    return ({ d with timestamp := some v }, rest)
  | .sessionId => do
    let (v, rest) ← Json.text bytes
    return ({ d with sessionId := some v }, rest)
  | .localPort => do
    let (v, rest) ← Json.unsigned 65535 "u16" bytes
    return ({ d with localPort := some v.toUInt16 }, rest)
  | .direction => do
    let (v, rest) ← readDirection bytes
    return ({ d with direction := some v }, rest)
  | .length => do
    let (v, rest) ← Json.unsigned (Word.count64 - 1) "usize" bytes
    return ({ d with length := some v }, rest)
  | .data => do
    let (v, rest) ← Json.text bytes
    return ({ d with data := some v }, rest)

def required (key : Key) : Option α → Except Json.Fault α
  | some v => .ok v
  | none => .error (.shape (.missingField key.name))

/-- The record of a draft; the first key that is missing is reported. -/
def finish (d : Draft) : Except Json.Fault CaptureRecord :=
  return {
    timestamp := ← required .timestamp d.timestamp
    sessionId := ← required .sessionId d.sessionId
    localPort := ← required .localPort d.localPort
    direction := ← required .direction d.direction
    length := ← required .length d.length
    data := ← required .data d.data }

end Draft

/-- Read the values of an array behind its bracket, after a number of them. -/
def readRow : List Key → Nat → Draft → Reader Draft
  | [], _, d, bytes => .ok (d, bytes)
  | k :: ks, n, d, bytes => do
    match ← Json.nextElement (n == 0) bytes with
    | none => throw (.shape (.wrongLength n "struct CaptureRecord with 6 elements"))
    | some bytes =>
      let (d, rest) ← d.read k bytes
      readRow ks (n + 1) d rest

/-- Read the entries of a table behind its brace, where at most so many bytes are left. -/
def readTable : Nat → Bool → Draft → Reader Draft
  | 0, _, _, _ => .error .malformed
  | n + 1, isFirst, d, bytes => do
    match ← Json.nextKey isFirst bytes with
    | none => return (d, bytes)
    | some (name, rest) =>
      match Key.ofName? name with
      | none => readTable n false d (← Json.skip n (← Json.mark ':' rest))
      | some k =>
        if d.holds k then throw (.shape (.duplicateField k.name))
        let (d, rest) ← d.read k (← Json.mark ':' rest)
        readTable n false d rest

/-- The record that a line holds. -/
def ofLine (line : Bytes) : Except Json.Fault CaptureRecord := do
  let (record, rest) ← match Json.skipSpace line with
    | [] => throw .truncated
    | bytes@(b :: rest) =>
      if b == Json.code '[' then do
        let (d, rest) ← readRow Key.all 0 {} rest
        pure (← d.finish, ← Json.mark ']' rest)
      else if b == Json.code '\x7b' then do
        let (d, rest) ← readTable (rest.length + 1) true {} rest
        pure (← d.finish, ← Json.mark '\x7d' rest)
      else Json.wrongType "struct CaptureRecord" bytes
  if (Json.skipSpace rest).isEmpty then return record else throw .malformed

end CaptureRecord

end Wiretap
