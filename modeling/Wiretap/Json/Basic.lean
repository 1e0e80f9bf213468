import Wiretap.Bytes
import Wiretap.Shape
/-! # Pieces of JSON texts

Readers take bytes and give what they read with the bytes behind it. A text may end too early, be
malformed, or hold a value of the wrong shape. Strings are read and written octet by octet: only
ASCII characters are ever escaped.
-/

namespace Wiretap.Json

/-- Why a text cannot be read. -/
inductive Fault where
  /-- The text ends too early. -/
  | truncated
  /-- The text is not JSON. -/
  | malformed
  /-- The value does not have the expected shape. -/
  | shape (fault : ShapeFault)
  deriving Repr, DecidableEq, BEq

abbrev Reader (α : Type) := Bytes → Except Fault (α × Bytes)

def code (c : Char) : UInt8 := c.toNat.toUInt8

def isSpace (b : UInt8) : Bool := b == 32 || b == 10 || b == 13 || b == 9

/-- The bytes behind leading white space. -/
def skipSpace (bytes : Bytes) : Bytes := bytes.dropWhile isSpace

def isDigit (b : UInt8) : Bool := 48 ≤ b && b ≤ 57

def digitValue (b : UInt8) : Nat := b.toNat - 48

def startsWithDigit (bytes : Bytes) : Bool := bytes.head?.any isDigit

/-- The bytes behind a fixed word. -/
def word : List Char → Bytes → Except Fault Bytes
  | [], bytes => .ok bytes
  | _ :: _, [] => .error .truncated
  | c :: cs, b :: rest => if b == code c then word cs rest else .error .malformed

/-! ## Strings -/

def hexValue? (b : UInt8) : Option Nat :=
  if isDigit b then some (b.toNat - 48)
  else if 97 ≤ b && b ≤ 102 then some (b.toNat - 87)
  else if 65 ≤ b && b ≤ 70 then some (b.toNat - 55)
  else none

def unit : Reader Nat
  | a :: b :: c :: d :: rest =>
    match hexValue? a, hexValue? b, hexValue? c, hexValue? d with
    | some w, some x, some y, some z => .ok (w * 4096 + x * 256 + y * 16 + z, rest)
    | _, _, _, _ => .error .malformed
  | _ => .error .truncated

def isHighHalf (u : Nat) : Bool := 0xD800 ≤ u && u ≤ 0xDBFF

def isLowHalf (u : Nat) : Bool := 0xDC00 ≤ u && u ≤ 0xDFFF

def pointBytes (n : Nat) : Bytes := Bytes.ofText (String.singleton (Char.ofNat n))

/-- The second half of a pair, behind its own escape. -/
def lowHalf (high : Nat) : Reader Bytes
  | [] => .error .truncated
  | 92 :: [] => .error .truncated
  | 92 :: 117 :: rest => do
    let (low, rest) ← unit rest
    if isLowHalf low then
      return (pointBytes (0x10000 + (high - 0xD800) * 0x400 + (low - 0xDC00)), rest)
    else throw .malformed
  | _ => .error .malformed

/-- The character that the rest of an escape stands for, with the escape's backslash read. -/
def escaped : Reader Bytes
  | [] => .error .truncated
  | 34 :: rest => .ok ([34], rest)
  | 92 :: rest => .ok ([92], rest)
  | 47 :: rest => .ok ([47], rest)
  | 98 :: rest => .ok ([8], rest)
  | 102 :: rest => .ok ([12], rest)
  | 110 :: rest => .ok ([10], rest)
  | 114 :: rest => .ok ([13], rest)
  | 116 :: rest => .ok ([9], rest)
  | 117 :: rest => do
    let (u, rest) ← unit rest
    if isLowHalf u then throw .malformed
    else if isHighHalf u then lowHalf u rest
    else return (pointBytes u, rest)
  | _ => .error .malformed

/-- The octets of a string up to its closing quote, within as many pieces as a bound has octets. -/
def stringPieces : Bytes → Reader Bytes
  | _, [] => .error .truncated
  | [], _ => .error .malformed
  | _ :: n, b :: rest =>
    if b == 34 then .ok ([], rest)
    else if b == 92 then do
      let (piece, rest) ← escaped rest
      let (more, rest) ← stringPieces n rest
      return (piece ++ more, rest)
    else if b < 32 then .error .malformed
    else do
      let (more, rest) ← stringPieces n rest
      return (b :: more, rest)

/-- The text of a string behind its opening quote. -/
def stringRest : Reader String := fun bytes => do
  let (body, rest) ← stringPieces bytes bytes
  match body.toText? with
  | some text => return (text, rest)
  | none => throw .malformed

def hexCode (n : Nat) : UInt8 := if n < 10 then (48 + n).toUInt8 else (87 + n).toUInt8

/-- An octet inside a written string. -/
def escape (b : UInt8) : Bytes :=
  if b == 34 then [92, 34]
  else if b == 92 then [92, 92]
  else if b == 8 then [92, 98]
  else if b == 12 then [92, 102]
  else if b == 10 then [92, 110]
  else if b == 13 then [92, 114]
  else if b == 9 then [92, 116]
  else if b < 32 then [92, 117, 48, 48, hexCode (b.toNat / 16), hexCode (b.toNat % 16)]
  else [b]

def string (text : String) : Bytes := 34 :: (Bytes.ofText text).flatMap escape ++ [34]

/-! ## Rows and tables -/

/-- The bytes of the next element of a row behind its bracket, or nothing at the row's end. -/
def nextElement (isFirst : Bool) (bytes : Bytes) : Except Fault (Option Bytes) :=
  match skipSpace bytes with
  | [] => .error .truncated
  | b :: rest =>
    if b == code ']' then .ok none
    else if isFirst then .ok (some (b :: rest))
    else if b == code ',' then
      match skipSpace rest with
      | [] => .error .truncated
      | c :: rest => if c == code ']' then .error .malformed else .ok (some (c :: rest))
    else .error .malformed

/-- The next key of a table behind its brace, or nothing at the table's end. -/
def nextKey (isFirst : Bool) (bytes : Bytes) : Except Fault (Option (String × Bytes)) :=
  match skipSpace bytes with
  | [] => .error .truncated
  | b :: rest =>
    if b == code '\x7d' then .ok none
    else if isFirst then
      if b == 34 then (stringRest rest).map some else .error .malformed
    else if b == code ',' then
      match skipSpace rest with
      | [] => .error .truncated
      | c :: rest => if c == 34 then (stringRest rest).map some else .error .malformed
    else .error .malformed

/-- The bytes behind an expected mark and white space in front of it. -/
def mark (c : Char) (bytes : Bytes) : Except Fault Bytes :=
  match skipSpace bytes with
  | [] => .error .truncated
  | b :: rest => if b == code c then .ok rest else .error .malformed

end Wiretap.Json
