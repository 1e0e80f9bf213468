import Wiretap.Json.Basic
import Wiretap.Number.Word
/-! # Numbers in JSON texts

A number without fraction and exponent that fits 64 bits is an integer; any other one, and a negative
zero, is a floating point number. Its digits are kept as far as they fit 64 bits, and what is kept
is scaled by a rounded power of ten.
-/

namespace Wiretap.Json

/-- A number. -/
inductive Number where
  | unsigned (n : Nat)
  /-- The negative of a number. -/
  | negative (n : Nat)
  | float (isNegative : Bool) (magnitude : Double)
  deriving Repr, DecidableEq, BEq

def Number.found : Number → Found
  | .unsigned n => .integer n
  | .negative n => .integer (-n)
  | .float isNegative magnitude => .scaledFloat isNegative magnitude

namespace Number

def maxWord : Nat := Word.count64 - 1

/-- Digits that were kept, and the power of ten that they count. -/
structure Kept where
  significand : Nat
  power : Int
  deriving Repr, DecidableEq, BEq

/-- Keep digits while the significand fits 64 bits; `true` when all of them fit. Behind the first
digit that does not fit none is kept. -/
def keep (significand : Nat) : Bytes → Nat × Bytes
  | [] => (significand, [])
  | b :: rest =>
    let next := significand * 10 + digitValue b
    if next ≤ maxWord then keep next rest else (significand, b :: rest)

/-- Scale a magnitude by a power of ten in steps that stay within range. -/
def scaleSteps : Nat → Double → Int → Except Fault Double
  | 0, f, _ => .ok f
  | n + 1, f, power =>
    if power.natAbs ≤ 308 then
      if power ≥ 0 then
        match f.mul? (.powerOfTen power.toNat) with
        | some g => .ok g
        | none => .error .malformed
      else .ok ((f.div? (.powerOfTen power.natAbs)).getD f)
    else if f.mantissa == 0 then .ok f
    else if power ≥ 0 then .error .malformed
    else scaleSteps n ((f.div? (.powerOfTen 308)).getD f) (power + 308)

def Kept.magnitude (k : Kept) : Except Fault Double :=
  scaleSteps 4 (Double.ofWord k.significand) k.power

def digitsValue (digits : Bytes) : Nat := digits.foldl (fun n b => n * 10 + digitValue b) 0

/-- The rest of a number behind its exponent mark. -/
def exponent (isNegative : Bool) (k : Kept) (bytes : Bytes) : Except Fault (Number × Bytes) := do
  let (sign, rest) : Bool × Bytes :=
    match bytes with
    | 43 :: rest => (false, rest)
    | 45 :: rest => (true, rest)
    | _ => (false, bytes)
  match rest with
  | [] => throw .truncated
  | b :: _ =>
    if !isDigit b then throw .malformed
    let e : Nat := digitsValue (rest.takeWhile isDigit)
    let power := if sign then k.power - e else k.power + e
    let magnitude ← Kept.magnitude { k with power }
    return (.float isNegative magnitude, rest.dropWhile isDigit)

/-- The rest of a number behind its point. -/
def fraction (isNegative : Bool) (k : Kept) (bytes : Bytes) : Except Fault (Number × Bytes) := do
  let digits := bytes.takeWhile isDigit
  let rest := bytes.dropWhile isDigit
  if digits.isEmpty then
    throw (if rest.isEmpty then .truncated else .malformed)
  let (significand, dropped) := keep k.significand digits
  let k := { significand, power := k.power - (digits.length - dropped.length : Nat) : Kept }
  match rest with
  | 101 :: rest | 69 :: rest => exponent isNegative k rest
  | _ => return (.float isNegative (← k.magnitude), rest)

/-- A number behind its sign. -/
def magnitude (isNegative : Bool) : Reader Number
  | [] => .error .truncated
  | bytes@(b :: after) =>
    if !isDigit b then .error .malformed
    else if b == 48 && startsWithDigit after then .error .malformed
    else do
      let (significand, dropped) := keep 0 (bytes.takeWhile isDigit)
      let k : Kept := ⟨significand, dropped.length⟩
      let rest := bytes.dropWhile isDigit
      match rest with
      | 46 :: rest => fraction isNegative k rest
      | 101 :: rest | 69 :: rest => exponent isNegative k rest
      | _ =>
        if !dropped.isEmpty then return (.float isNegative (← k.magnitude), rest)
        else if !isNegative then return (.unsigned significand, rest)
        else if significand == 0 || significand > Word.half64 then
          return (.float true (.ofWord significand), rest)
        else return (.negative significand, rest)

def read : Reader Number
  | 45 :: rest => magnitude true rest
  | bytes => magnitude false bytes

/-! ## Numbers that are passed over -/

/-- The bytes behind one or more digits. -/
def skipDigits (bytes : Bytes) : Except Fault Bytes :=
  if startsWithDigit bytes then .ok (bytes.dropWhile isDigit) else .error .malformed

/-- The bytes behind an exponent, if there is one. -/
def skipExponent (bytes : Bytes) : Except Fault Bytes :=
  match bytes with
  | 101 :: rest | 69 :: rest =>
    match rest with
    | 43 :: rest | 45 :: rest => skipDigits rest
    | _ => skipDigits rest
  | _ => .ok bytes

/-- The bytes behind a number that nobody looks at. -/
def skip (bytes : Bytes) : Except Fault Bytes := do
  let bytes := match bytes with
    | 45 :: rest => rest
    | _ => bytes
  let rest ← skipDigits bytes
  if bytes.head? == some 48 && startsWithDigit (bytes.drop 1) then throw .malformed
  match rest with
  | 46 :: rest => skipExponent (← skipDigits rest)
  | _ => skipExponent rest

end Number

end Wiretap.Json
