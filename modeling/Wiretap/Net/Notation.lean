import Wiretap.Net.Address
import Wiretap.Number.Word
import Wiretap.Text.Hex
import Wiretap.Text.Numeral
/-! # Address notation

IPv4 addresses are four decimal octets without leading zeros. IPv6 addresses are groups of
hexadecimal digits with at most one `::`, may end in an IPv4 address, and are written with the
longest run of zero groups compressed. A socket address has a number behind a colon; an IPv6 host
is in brackets there and may carry a numeric scope.
-/

namespace Wiretap.Notation

/-- A reader takes something off the front of the characters, or fails. -/
abbrev Reader (α : Type) := List Char → Option (α × List Char)

def char (c : Char) : Reader Unit
  | d :: rest => if d = c then some ((), rest) else none
  | [] => none

/-- The longest run of digits in front, as its value and its length. A value that no word of 32 bits
can hold counts as the first of them. -/
def digitRun (digit? : Char → Option Nat) (base : Nat) (value count : Nat) :
    List Char → (Nat × Nat) × List Char
  | [] => ((value, count), [])
  | c :: rest =>
    match digit? c with
    | some d => digitRun digit? base (min (value * base + d) Word.count32) (count + 1) rest
    | none => ((value, count), c :: rest)

/-- Read a decimal octet: at most three digits, no leading zero, at most 255. -/
def octet : Reader UInt8 := fun cs =>
  let ((value, count), rest) := digitRun Text.digit? 10 0 0 cs
  if count = 0 ∨ count > 3 ∨ value > 255 ∨ (cs.head? = some '0' ∧ count > 1) then none
  else some (UInt8.ofNat value, rest)

def group : Reader UInt16 := fun cs =>
  let ((value, count), rest) := digitRun Text.hexDigit? 16 0 0 cs
  if count = 0 ∨ count > 4 then none else some (UInt16.ofNat value, rest)

/-- Read a decimal number of at most `bound`; leading zeros are allowed. -/
def number (bound : Nat) : Reader Nat := fun cs =>
  let ((value, count), rest) := digitRun Text.digit? 10 0 0 cs
  if count = 0 ∨ value > bound then none else some (value, rest)

/-- Read an IPv4 address. -/
def ipv4 : Reader (UInt8 × UInt8 × UInt8 × UInt8) := fun cs => do
  let (a, cs) ← octet cs
  let (_, cs) ← char '.' cs
  let (b, cs) ← octet cs
  let (_, cs) ← char '.' cs
  let (c, cs) ← octet cs
  let (_, cs) ← char '.' cs
  let (d, cs) ← octet cs
  return ((a, b, c, d), cs)

/-- Read a separator in front of every element but the first, then the element. -/
def separated (first : Bool) (reader : Reader α) : Reader α := fun cs =>
  if first then reader cs
  else do
    let (_, cs) ← char ':' cs
    reader cs

/-- The two groups that an IPv4 address makes at the end of an IPv6 address. -/
def embedded (q : UInt8 × UInt8 × UInt8 × UInt8) : List UInt16 :=
  let (a, b, c, d) := q
  [a.toUInt16 * 256 + b.toUInt16, c.toUInt16 * 256 + d.toUInt16]

/-- Groups read in a row, and whether an IPv4 address ended them. -/
structure Groups where
  groups : List UInt16
  embedsV4 : Bool

/-- Read up to `limit` groups. An IPv4 address counts as two and ends the row. -/
def groupRow : Nat → Bool → List Char → Groups × List Char
  | 0, _, cs => (⟨[], false⟩, cs)
  | limit + 1, first, cs =>
    match (if limit > 0 then separated first ipv4 cs else none) with
    | some (q, rest) => (⟨embedded q, true⟩, rest)
    | none =>
      match separated first group cs with
      | none => (⟨[], false⟩, cs)
      | some (g, rest) =>
        let (row, rest) := groupRow limit false rest
        (⟨g :: row.groups, row.embedsV4⟩, rest)

def ofGroups? (groups : List UInt16) : Option IpAddress :=
  if h : groups.toArray.size = 8 then some (.v6 ⟨groups.toArray, h⟩) else none

/-- Read an IPv6 address. The groups in front of `::` cannot end in an IPv4 address, and `::` stands
for at least one group. -/
def ipv6 : Reader IpAddress := fun cs => do
  let (head, rest) := groupRow 8 true cs
  if head.groups.length = 8 then return (← ofGroups? head.groups, rest)
  if head.embedsV4 then none
  let (_, rest) ← char ':' rest
  let (_, rest) ← char ':' rest
  let (tail, rest) := groupRow (7 - head.groups.length) true rest
  let zeros := List.replicate (8 - head.groups.length - tail.groups.length) 0
  return (← ofGroups? (head.groups ++ zeros ++ tail.groups), rest)

def complete (reader : Reader α) (text : String) : Option α :=
  match reader text.toList with
  | some (a, []) => some a
  | _ => none

def hostV4 : Reader IpAddress := fun cs => do
  let ((a, b, c, d), rest) ← ipv4 cs
  return (.v4 a b c d, rest)

/-- Read the address of a socket of the first family. -/
def socketV4 : Reader SocketAddress := fun cs => do
  let (ip, cs) ← hostV4 cs
  let (_, cs) ← char ':' cs
  let (n, cs) ← number 65535 cs
  return (⟨ip, UInt16.ofNat n, 0⟩, cs)

/-- Read a scope, if there is one. -/
def scope : Reader Nat := fun cs =>
  match cs with
  | '%' :: rest => number (Word.count32 - 1) rest
  | _ => some (0, cs)

/-- Read the address of a socket of the second family. -/
def socketV6 : Reader SocketAddress := fun cs => do
  let (_, cs) ← char '[' cs
  let (ip, cs) ← ipv6 cs
  let (zone, cs) ← scope cs
  let (_, cs) ← char ']' cs
  let (_, cs) ← char ':' cs
  let (n, cs) ← number 65535 cs
  return (⟨ip, UInt16.ofNat n, zone⟩, cs)

/-- The hexadecimal digits of a group, without leading zeros. -/
def groupText (g : UInt16) : String := String.ofList (Nat.toDigits 16 g.toNat)

def zeroPrefix : List UInt16 → Nat
  | [] => 0
  | g :: rest => if g == 0 then zeroPrefix rest + 1 else 0

/-- The start and length of the longest run of zero groups; the first one on ties. -/
def longestZeros : Nat → List UInt16 → Nat × Nat
  | _, [] => (0, 0)
  | start, g :: rest =>
    let here := zeroPrefix (g :: rest)
    let later := longestZeros (start + 1) rest
    if here ≥ later.2 then (start, here) else later

def joined (groups : List UInt16) : String := ":".intercalate (groups.map groupText)

def groupsText (groups : List UInt16) : String :=
  let (start, length) := longestZeros 0 groups
  if length > 1 then joined (groups.take start) ++ "::" ++ joined (groups.drop (start + length))
  else joined groups

end Wiretap.Notation

namespace Wiretap

namespace IpAddress

def ofText? (text : String) : Option IpAddress :=
  (Notation.complete Notation.hostV4 text).or (Notation.complete Notation.ipv6 text)

def toText : IpAddress → String
  | .v4 a b c d => s!"{a.toNat}.{b.toNat}.{c.toNat}.{d.toNat}"
  | .v6 groups =>
    match groups.toList with
    | [0, 0, 0, 0, 0, 0xffff, g, h] =>
      s!"::ffff:{g.toNat / 256}.{g.toNat % 256}.{h.toNat / 256}.{h.toNat % 256}"
    | gs => Notation.groupsText gs

end IpAddress

namespace SocketAddress

def ofText? (text : String) : Option SocketAddress :=
  (Notation.complete Notation.socketV4 text).or (Notation.complete Notation.socketV6 text)

/-- A host and a number, with an IPv6 host in brackets. -/
def text (ip : IpAddress) (scope : Nat) (number : String) : String :=
  match ip with
  | .v4 .. => s!"{ip.toText}:{number}"
  | .v6 _ =>
    let zone := if scope = 0 then "" else s!"%{scope}"
    s!"[{ip.toText}{zone}]:{number}"

def toText (a : SocketAddress) : String := text a.ip a.scope (toString a.portNumber.toNat)

end SocketAddress

end Wiretap
