/-! # Double precision numbers

The finite magnitudes of the 64-bit binary format, in exact arithmetic: rounding a decimal to the
nearest of them, and writing one with the fewest digits that read back as the same number.
-/

namespace Wiretap

/-- The magnitude `mantissa * 2 ^ exponent`, with a mantissa below `2 ^ 53` and an exponent from
-1074 on. -/
structure Double where
  mantissa : Nat
  exponent : Int
  deriving Repr, DecidableEq, BEq, Inhabited

namespace Double

/-- `2 ^ 53`, the number of mantissas. -/
def mantissaCount : Nat := 0x20000000000000

/-- A positive rational number, or zero, as numerator and denominator. -/
structure Ratio where
  num : Nat
  den : Nat
  deriving Repr, DecidableEq, BEq

/-- `coefficient * base ^ power` as a ratio. -/
def Ratio.scaled (coefficient base : Nat) (power : Int) : Ratio :=
  if power ≥ 0 then ⟨coefficient * Nat.pow base power.toNat, 1⟩
  else ⟨coefficient, Nat.pow base (-power).toNat⟩

/-- A quotient rounded to the nearest whole number, a half to the even neighbour. -/
def roundHalfEven (num den : Nat) : Nat :=
  let q := num / den
  let r := num % den
  if 2 * r > den || (2 * r == den && q % 2 == 1) then q + 1 else q

def Ratio.shift (r : Ratio) (power : Int) : Ratio :=
  if power ≥ 0 then ⟨r.num, r.den * Nat.pow 2 power.toNat⟩
  else ⟨r.num * Nat.pow 2 (-power).toNat, r.den⟩

/-- The least exponent with which a ratio's whole part stays below `2 ^ 53`, and no less than
-1074. -/
def exponentFor (r : Ratio) : Int :=
  let guess : Int := (r.num.log2 : Int) - (r.den.log2 : Int) - 53
  let scaled := r.shift guess
  let exact := if scaled.num / scaled.den < mantissaCount then guess else guess + 1
  if exact < -1074 then -1074 else exact

/-- The magnitude nearest to a ratio; nothing when it is out of range. -/
def ofRatio? (r : Ratio) : Option Double :=
  if r.num == 0 then some ⟨0, -1074⟩
  else
    let e := exponentFor r
    let scaled := r.shift e
    let m := roundHalfEven scaled.num scaled.den
    let d : Double := if m == mantissaCount then ⟨mantissaCount / 2, e + 1⟩ else ⟨m, e⟩
    if d.exponent > 971 then none else some d

/-- The magnitude nearest to `digits * 10 ^ power`; nothing when it is out of range. Powers far
outside the range are settled without computing them. -/
def ofDecimal? (digits : Nat) (power : Int) : Option Double :=
  if digits == 0 then some ⟨0, -1074⟩
  else
    let places : Int := (Nat.toDigits 10 digits).length
    if power + places > 310 then none
    else if power + places < -330 then some ⟨0, -1074⟩
    else ofRatio? (Ratio.scaled digits 10 power)

/-- The magnitude nearest to a natural number below `2 ^ 64`. -/
def ofWord (n : Nat) : Double := (ofRatio? ⟨n, 1⟩).getD ⟨0, -1074⟩

/-- The largest power of ten that is not above a positive ratio. -/
def log10 (r : Ratio) : Int :=
  if r.num ≥ r.den then ((Nat.toDigits 10 (r.num / r.den)).length : Int) - 1
  else
    let places := (Nat.toDigits 10 (r.den / r.num)).length
    if r.num * Nat.pow 10 (places - 1) ≥ r.den then -((places : Int) - 1) else -(places : Int)

/-- The numbers that round to a magnitude, as twice its neighbours' midpoints: `low / den` to
`high / den`, ends included when the mantissa is even. -/
structure Interval where
  low : Nat
  high : Nat
  den : Nat
  closed : Bool
  deriving Repr

/-- The interval of a positive magnitude, over four times the unit of its mantissa. -/
def interval (d : Double) : Interval :=
  let gapBelow := if d.mantissa == mantissaCount / 2 && d.exponent > -1074 then 1 else 2
  let unit := Ratio.scaled 1 2 (d.exponent - 2)
  ⟨(4 * d.mantissa - gapBelow) * unit.num, (4 * d.mantissa + 2) * unit.num, unit.den,
    d.mantissa % 2 == 0⟩

/-- Whether `n * 10 ^ power` lies in an interval. -/
def Interval.holds (i : Interval) (n : Nat) (power : Int) : Bool :=
  let x := Ratio.scaled n 10 power
  let a := i.low * x.den
  let b := x.num * i.den
  let c := i.high * x.den
  if i.closed then a ≤ b && b ≤ c else a < b && b < c

/-- A decimal number, `digits * 10 ^ power`. -/
structure Decimal where
  digits : Nat
  power : Int
  deriving Repr, DecidableEq, BEq

/-- The better of the two neighbours of a ratio on the grid of multiples of `10 ^ power`, if one of
them lies in the interval. -/
def onGrid? (value : Ratio) (i : Interval) (power : Int) : Option Decimal :=
  let step := Ratio.scaled 1 10 power
  let num := value.num * step.den
  let den := value.den * step.num
  let below := num / den
  let first := if 2 * (num % den) ≤ den then below else below + 1
  let second := if first == below then below + 1 else below
  if i.holds first power then some ⟨first, power⟩
  else if i.holds second power then some ⟨second, power⟩
  else none

/-- The first grid, from the coarsest on, that has a number in the interval. -/
def searchGrids (value : Ratio) (i : Interval) (top : Int) : List Nat → Decimal
  | [] => onGrid? value i (top - 17) |>.getD ⟨0, 0⟩
  | n :: rest =>
    match onGrid? value i (top - n) with
    | some d => d
    | none => searchGrids value i top rest

/-- The decimal with the fewest digits that rounds to a magnitude. -/
def shortest (d : Double) : Decimal :=
  if d.mantissa == 0 then ⟨0, 0⟩
  else
    let value := Ratio.scaled d.mantissa 2 d.exponent
    searchGrids value (interval d) (log10 value) (List.range 18)

/-- A decimal in positional notation, without an exponent. -/
def Decimal.positional (d : Decimal) : String :=
  let ds := Nat.toDigits 10 d.digits
  if d.power ≥ 0 then
    if d.digits == 0 then "0" else String.ofList (ds ++ List.replicate d.power.toNat '0')
  else
    let places := (-d.power).toNat
    let padded := List.replicate (places + 1 - ds.length) '0' ++ ds
    let whole := padded.take (padded.length - places)
    let fraction := (padded.drop (padded.length - places)).reverse.dropWhile (· == '0')
    if fraction.isEmpty then String.ofList whole
    else String.ofList (whole ++ '.' :: fraction.reverse)

def positional (d : Double) : String := d.shortest.positional

/-- A magnitude with the fewest digits: positional with a point from `0.00001` up to below
`10 ^ 16`, and elsewhere one digit before the point and a signed exponent. -/
def scientific (d : Double) : String :=
  let s := d.shortest
  let ds := Nat.toDigits 10 s.digits
  let e := s.power + ds.length - 1
  if s.digits == 0 || (-5 ≤ e && e ≤ 15) then
    let text := s.positional
    if text.toList.contains '.' then text else text ++ ".0"
  else
    let fraction := (ds.drop 1).reverse.dropWhile (· == '0') |>.reverse
    let mantissa := ds.take 1 ++ (if fraction.isEmpty then [] else '.' :: fraction)
    String.ofList (mantissa ++ 'e' :: (if e < 0 then '-' else '+') :: Nat.toDigits 10 e.natAbs)

def ratio (d : Double) : Ratio := Ratio.scaled d.mantissa 2 d.exponent

/-- The rounded product of two magnitudes, if it is not too large. -/
def mul? (a b : Double) : Option Double :=
  ofRatio? ⟨a.ratio.num * b.ratio.num, a.ratio.den * b.ratio.den⟩

/-- The rounded quotient of two magnitudes, of which the second is not zero. -/
def div? (a b : Double) : Option Double :=
  ofRatio? ⟨a.ratio.num * b.ratio.den, a.ratio.den * b.ratio.num⟩

def powerOfTen (n : Nat) : Double := (ofDecimal? 1 n).getD ⟨0, -1074⟩

end Double

/-- A double precision number as it is read from text. -/
inductive FloatValue where
  | finite (negative : Bool) (magnitude : Double)
  | infinite (negative : Bool)
  | notANumber
  deriving Repr, DecidableEq, BEq

namespace FloatValue

/-- A number in positional notation, with a point even where the fraction is zero. -/
def message : FloatValue → String
  | .finite negative magnitude =>
    let text := magnitude.positional
    let pointed := if text.toList.contains '.' then text else text ++ ".0"
    if negative then "-" ++ pointed else pointed
  | .infinite negative => if negative then "-inf" else "inf"
  | .notANumber => "NaN"

end FloatValue

end Wiretap
