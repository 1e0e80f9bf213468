import Wiretap.Bytes
/-! # Base64

The standard alphabet with padding. Reading accepts written forms only: the padding is required,
the bits that padding leaves unused are zero, and nothing else may stand in the text.
-/

namespace Wiretap.Text.Base64

def symbol (n : Nat) : Char :=
  if n < 26 then Char.ofNat ('A'.toNat + n)
  else if n < 52 then Char.ofNat ('a'.toNat + (n - 26))
  else if n < 62 then Char.ofNat ('0'.toNat + (n - 52))
  else if n = 62 then '+' else '/'

/-- The value below 64 that a character stands for. -/
def value? (c : Char) : Option Nat :=
  if 'A' ≤ c && c ≤ 'Z' then some (c.toNat - 'A'.toNat)
  else if 'a' ≤ c && c ≤ 'z' then some (c.toNat - 'a'.toNat + 26)
  else if '0' ≤ c && c ≤ '9' then some (c.toNat - '0'.toNat + 52)
  else if c = '+' then some 62
  else if c = '/' then some 63
  else none

def group (a b c : UInt8) : List Char :=
  [symbol (a.toNat / 4), symbol (a.toNat % 4 * 16 + b.toNat / 16),
    symbol (b.toNat % 16 * 4 + c.toNat / 64), symbol (c.toNat % 64)]

/-- The written form of a byte string, as characters. -/
def encodeChars : Bytes → List Char
  | [] => []
  | [a] => [symbol (a.toNat / 4), symbol (a.toNat % 4 * 16), '=', '=']
  | [a, b] =>
    [symbol (a.toNat / 4), symbol (a.toNat % 4 * 16 + b.toNat / 16),
      symbol (b.toNat % 16 * 4), '=']
  | a :: b :: c :: rest => group a b c ++ encodeChars rest

def encode (bytes : Bytes) : String := String.ofList (encodeChars bytes)

/-- The octet that two values of a last group with two paddings leave. -/
def lastOne? (p q : Nat) : Option Bytes :=
  if q % 16 = 0 then some [UInt8.ofNat (p * 4 + q / 16)] else none

/-- The octets that three values of a last group with one padding leave. -/
def lastTwo? (p q r : Nat) : Option Bytes :=
  if r % 4 = 0 then some [UInt8.ofNat (p * 4 + q / 16), UInt8.ofNat (q % 16 * 16 + r / 4)] else none

def full (p q r s : Nat) : Bytes :=
  [UInt8.ofNat (p * 4 + q / 16), UInt8.ofNat (q % 16 * 16 + r / 4), UInt8.ofNat (r % 4 * 64 + s)]

/-- The byte string that characters are the written form of. -/
def decodeChars? : List Char → Option Bytes
  | [] => some []
  | [a, b, '=', '='] => do lastOne? (← value? a) (← value? b)
  | [a, b, c, '='] => do lastTwo? (← value? a) (← value? b) (← value? c)
  | a :: b :: c :: d :: rest => do
    let octets := full (← value? a) (← value? b) (← value? c) (← value? d)
    return octets ++ (← decodeChars? rest)
  | _ => none

def decode? (text : String) : Option Bytes := decodeChars? text.toList

end Wiretap.Text.Base64
