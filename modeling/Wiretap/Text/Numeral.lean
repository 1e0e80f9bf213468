import Wiretap.Number.Word
/-! # Integers in text

A numeral is an optional `+`, or `-` where negative numbers are allowed, followed by decimal digits.
Reading stops at the first fault, and a value that has outgrown its bound is reported before any
character behind it is looked at.
-/

namespace Wiretap.Text

/-- Why a text is not an integer within its bounds. -/
inductive NumeralFault where
  | empty
  | invalidDigit
  | tooLarge
  | tooSmall
  deriving Repr, DecidableEq, BEq

def NumeralFault.message : NumeralFault → String
  | .empty => "cannot parse integer from empty string"
  | .invalidDigit => "invalid digit found in string"
  | .tooLarge => "number too large to fit in target type"
  | .tooSmall => "number too small to fit in target type"

def digit? (c : Char) : Option Nat :=
  if '0' ≤ c && c ≤ '9' then some (c.toNat - '0'.toNat) else none

def hexDigit? (c : Char) : Option Nat :=
  if '0' ≤ c && c ≤ '9' then some (c.toNat - '0'.toNat)
  else if 'a' ≤ c && c ≤ 'f' then some (c.toNat - 'a'.toNat + 10)
  else if 'A' ≤ c && c ≤ 'F' then some (c.toNat - 'A'.toNat + 10)
  else none

namespace Numeral

/-- Read digits on top of the value so far, which is at most `bound`. -/
def digits (bound : Nat) : Nat → List Char → Except NumeralFault Nat
  | value, [] => .ok value
  | value, c :: rest =>
    match digit? c with
    | none => .error .invalidDigit
    | some d =>
      if value * 10 + d ≤ bound then digits bound (value * 10 + d) rest else .error .tooLarge

/-- Read an unsigned integer of at most `bound`. A lone sign is an invalid digit. -/
def read (bound : Nat) (text : String) : Except NumeralFault Nat :=
  match text.toList with
  | [] => .error .empty
  | ['+'] => .error .invalidDigit
  | '+' :: rest => digits bound 0 rest
  | cs => digits bound 0 cs

/-- Read a 64-bit integer with or without a sign. -/
def readInt64 (text : String) : Except NumeralFault Int :=
  match text.toList with
  | ['-'] => .error .invalidDigit
  | '-' :: rest =>
    match digits Word.half64 0 rest with
    | .ok n => .ok (-n)
    | .error .tooLarge => .error .tooSmall
    | .error fault => .error fault
  | _ => (read (Word.half64 - 1) text).map Int.ofNat

def readUInt16 (text : String) : Except NumeralFault UInt16 :=
  (read 65535 text).map UInt16.ofNat

def readUInt64 (text : String) : Except NumeralFault Nat := read (Word.count64 - 1) text

end Numeral

end Wiretap.Text
