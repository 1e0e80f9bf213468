import Wiretap.Bytes
/-! # Where bytes stop being UTF-8

The first place at which a byte string is not well-formed UTF-8, and how many octets of it cannot
begin a character. Bytes that only lack their end have no such number.
-/

namespace Wiretap.Text

/-- What bytes begin with. -/
inductive Lead where
  /-- A character of so many octets. -/
  | char (size : Nat)
  /-- So many octets that no character begins with. -/
  | invalid (size : Nat)
  /-- The beginning of a character that is cut off. -/
  | incomplete
  deriving Repr, DecidableEq, BEq

def isContinuation (b : UInt8) : Bool := 0x80 ≤ b && b ≤ 0xBF

/-- The octets that may follow the first one of a character. -/
def secondRange (b : UInt8) : UInt8 × UInt8 :=
  if b == 0xE0 then (0xA0, 0xBF)
  else if b == 0xED then (0x80, 0x9F)
  else if b == 0xF0 then (0x90, 0xBF)
  else if b == 0xF4 then (0x80, 0x8F)
  else (0x80, 0xBF)

/-- The number of octets in a character by its first one. -/
def width (b : UInt8) : Nat :=
  if b < 0x80 then 1
  else if b < 0xC2 then 0
  else if b < 0xE0 then 2
  else if b < 0xF0 then 3
  else if b < 0xF5 then 4
  else 0

/-- Look at the octets from the third on of a character of `size` octets, `seen` of which are fine. -/
def tail (size : Nat) : Nat → Bytes → Lead
  | seen, rest =>
    if seen = size then .char size
    else
      match rest with
      | [] => .incomplete
      | b :: rest => if isContinuation b then tail size (seen + 1) rest else .invalid seen
termination_by _ rest => rest.length

/-- What bytes begin with; there is at least one. -/
def lead (b : UInt8) (rest : Bytes) : Lead :=
  match width b with
  | 0 => .invalid 1
  | 1 => .char 1
  | size =>
    match rest with
    | [] => .incomplete
    | c :: rest =>
      let range := secondRange b
      if range.1 ≤ c && c ≤ range.2 then tail size 2 rest else .invalid 1

/-- Where and why bytes are not UTF-8. -/
structure Utf8Fault where
  /-- How many octets in front are well-formed. -/
  validUpTo : Nat
  /-- How many octets begin no character; none when the end is missing. -/
  size : Option Nat
  deriving Repr, DecidableEq, BEq

def Utf8Fault.message (f : Utf8Fault) : String :=
  match f.size with
  | some n => s!"invalid utf-8 sequence of {n} bytes from index {f.validUpTo}"
  | none => s!"incomplete utf-8 byte sequence from index {f.validUpTo}"

/-- The first fault of bytes behind `index` well-formed ones. -/
def utf8FaultFrom (index : Nat) : Bytes → Option Utf8Fault
  | [] => none
  | b :: rest =>
    match lead b rest with
    | .char size => utf8FaultFrom (index + size) (rest.drop (size - 1))
    | .invalid size => some ⟨index, some size⟩
    | .incomplete => some ⟨index, none⟩
termination_by bytes => bytes.length
decreasing_by simp only [List.length_drop, List.length_cons]; omega

def utf8Fault? (bytes : Bytes) : Option Utf8Fault := utf8FaultFrom 0 bytes

end Wiretap.Text
