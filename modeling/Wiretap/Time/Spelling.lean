import Wiretap.Number.Word
import Wiretap.Text.Blank
import Wiretap.Text.Numeral
import Wiretap.Time.Span
/-! # Spans of time in words

A span is written as amounts with units, `1h 30m 5s`, and read from the same form with many more
spellings: unit names in full, exact decimal fractions, blanks between and inside the amounts.
The reader counts in 64-bit arithmetic and refuses whatever overflows it.
-/

namespace Wiretap

/-- The units that a span can be spelled with. -/
inductive TimeUnit where
  | nanosecond | microsecond | millisecond | second | minute | hour | day | week | month | year
  deriving Repr, DecidableEq, BEq

namespace TimeUnit

/-- The unit that a name stands for. -/
def ofName? : String → Option TimeUnit
  | "nanos" | "nsec" | "ns" => some .nanosecond
  | "usec" | "us" | "µs" => some .microsecond
  | "millis" | "msec" | "ms" => some .millisecond
  | "seconds" | "second" | "secs" | "sec" | "s" => some .second
  | "minutes" | "minute" | "min" | "mins" | "m" => some .minute
  | "hours" | "hour" | "hr" | "hrs" | "h" => some .hour
  | "days" | "day" | "d" => some .day
  | "weeks" | "week" | "wk" | "wks" | "w" => some .week
  | "months" | "month" | "M" => some .month
  | "years" | "year" | "yr" | "yrs" | "y" => some .year
  | _ => none

/-- The whole seconds in a unit of at least a second. -/
def wholeSeconds : TimeUnit → Nat
  | .second => 1
  | .minute => 60
  | .hour => 3600
  | .day => 86400
  | .week => 604800
  | .month => 2630016
  | .year => 31557600
  | _ => 0

/-- The nanoseconds in a unit below a second, and the seconds in the others: whole amounts are
multiplied by this number. -/
def wholeFactor : TimeUnit → Nat
  | .nanosecond => 1
  | .microsecond => 1000
  | .millisecond => 1000000
  | u => u.wholeSeconds

def countsSeconds : TimeUnit → Bool
  | .nanosecond | .microsecond | .millisecond => false
  | _ => true

/-- What a fraction of the unit is a multiple of: nanoseconds up to minutes, seconds from hours on.
A nanosecond has no fraction. -/
def fractionFactor? : TimeUnit → Option Nat
  | .nanosecond => none
  | .microsecond => some 1000
  | .millisecond => some 1000000
  | .second => some 1000000000
  | .minute => some 60000000000
  | u => some u.wholeSeconds

def fractionCountsSeconds : TimeUnit → Bool
  | .hour | .day | .week | .month | .year => true
  | _ => false

end TimeUnit

/-- Why a text spells no span. Positions are byte offsets. -/
inductive SpellingFault where
  | empty
  | numberExpected (offset : Nat)
  | invalidCharacter (offset : Nat)
  | unitMissing (amount : Nat)
  | unknownUnit (name : String)
  | unrepresentable
  /-- The sum is one nanosecond past the longest span, with its last second spelled as nanoseconds. -/
  | pastLongest
  deriving Repr, DecidableEq, BEq

/-- The wording of a spelling fault. -/
def SpellingFault.message : SpellingFault → String
  | .empty => "value was empty"
  | .numberExpected offset => s!"expected number at {offset}"
  | .invalidCharacter offset => s!"invalid character at {offset}"
  | .unitMissing amount => s!"time unit needed, for example {amount}sec or {amount}ms"
  | .unknownUnit name =>
    "unknown time unit \"" ++ name ++ "\", supported units: ns, us/µs, ms, sec, min, hours, days, " ++
      "weeks, months, years (and few variations)"
  | .unrepresentable =>
    "number is too large or cannot be represented without a lack of precision (values below 1ns are " ++
      "not supported)"
  | .pastLongest => "overflow in Duration::new"

namespace Span

def word (n : Nat) : Except SpellingFault Nat :=
  if n < Word.count64 then .ok n else .error .unrepresentable

/-- A decimal fraction, `numerator / denominator`. -/
structure Fraction where
  numerator : Nat
  denominator : Nat
  deriving Repr, DecidableEq, BEq

/-- An amount as it stands in the text: its whole part and its fraction, if it has one. -/
structure Amount where
  whole : Nat
  fraction : Option Fraction
  deriving Repr, DecidableEq, BEq

/-- A sum of seconds and nanoseconds. The nanoseconds may be exactly one second. -/
structure Sum where
  seconds : Nat
  nanoseconds : Nat
  deriving Repr, DecidableEq, BEq

/-- Add to a sum; whole seconds are carried once the nanoseconds exceed one second. -/
def Sum.add (sum : Sum) (seconds nanoseconds : Nat) : Except SpellingFault Sum := do
  let nanos ← word (sum.nanoseconds + nanoseconds)
  let carried ←
    if nanos > perSecond then word (seconds + nanos / perSecond) else pure seconds
  let nanos := if nanos > perSecond then nanos % perSecond else nanos
  let total ← word (sum.seconds + carried)
  if nanos < perSecond then return ⟨total, nanos⟩
  else if total + 1 < Word.count64 then return ⟨total + 1, 0⟩
  else throw .pastLongest

/-- Add an amount of a unit to a sum. -/
def Sum.addAmount (sum : Sum) (amount : Amount) (unit : TimeUnit) : Except SpellingFault Sum := do
  let whole ← word (amount.whole * unit.wholeFactor)
  let sum ← if unit.countsSeconds then sum.add whole 0 else sum.add 0 whole
  match amount.fraction with
  | none => return sum
  | some f =>
    let some factor := unit.fractionFactor? | throw .unrepresentable
    let scaled ← word (f.numerator * factor)
    if scaled % f.denominator != 0 then throw .unrepresentable
    let part := scaled / f.denominator
    if unit.fractionCountsSeconds then sum.add part 0 else sum.add 0 part

def isUnitChar (c : Char) : Bool :=
  ('a' ≤ c && c ≤ 'z') || ('A' ≤ c && c ≤ 'Z') || c == 'µ'

/-- The characters still to be read, with the byte offset of the first of them. -/
structure Cursor where
  offset : Nat
  rest : List Char
  deriving Repr, DecidableEq, BEq

/-- Read on after a decimal point that stands at `mark`. A fault is reported at the place behind the
last character that was accepted. -/
def readFraction (f : Fraction) (mark : Nat) : Nat → List Char →
    Except SpellingFault (Fraction × Cursor)
  | offset, [] => finish f mark ⟨offset, []⟩
  | offset, c :: rest =>
    match Text.digit? c with
    | some d =>
      if f.denominator * 10 < Word.count64 && f.numerator * 10 + d < Word.count64 then
        readFraction ⟨f.numerator * 10 + d, f.denominator * 10⟩ (offset + 1) (offset + 1) rest
      else .error .unrepresentable
    | none =>
      if Text.isBlank c then readFraction f (offset + c.utf8Size) (offset + c.utf8Size) rest
      else if isUnitChar c then finish f mark ⟨offset, c :: rest⟩
      else .error (.invalidCharacter mark)
where
  /-- A decimal point needs at least one digit behind it. -/
  finish (f : Fraction) (mark : Nat) (cursor : Cursor) : Except SpellingFault (Fraction × Cursor) :=
    if f.denominator == 1 then .error (.invalidCharacter mark) else .ok (f, cursor)

/-- Read the rest of an amount whose digits so far make `whole`. -/
def readAmount (whole : Nat) : Nat → List Char → Except SpellingFault (Amount × Cursor)
  | offset, [] => .ok (⟨whole, none⟩, ⟨offset, []⟩)
  | offset, c :: rest =>
    match Text.digit? c with
    | some d =>
      if whole * 10 + d < Word.count64 then readAmount (whole * 10 + d) (offset + 1) rest
      else .error .unrepresentable
    | none =>
      if Text.isBlank c then readAmount whole (offset + c.utf8Size) rest
      else if isUnitChar c then .ok (⟨whole, none⟩, ⟨offset, c :: rest⟩)
      else if c == '.' then do
        let (fraction, cursor) ← readFraction ⟨0, 1⟩ offset (offset + 1) rest
        return (⟨whole, some fraction⟩, cursor)
      else .error (.invalidCharacter offset)

/-- Read a unit's name, which ends at a digit, a blank or the end of the text. -/
def readName : Nat → List Char → Except SpellingFault (List Char × Cursor)
  | offset, [] => .ok ([], ⟨offset, []⟩)
  | offset, c :: rest =>
    if (Text.digit? c).isSome then .ok ([], ⟨offset, c :: rest⟩)
    else if Text.isBlank c then .ok ([], ⟨offset + c.utf8Size, rest⟩)
    else if isUnitChar c then do
      let (name, cursor) ← readName (offset + c.utf8Size) rest
      return (c :: name, cursor)
    else .error (.invalidCharacter offset)

/-- Skip blanks up to the first digit of the next amount; nothing when the text ends first. A fault is
reported at the place where the blanks begin. -/
def readFirstDigit (start : Nat) : Nat → List Char → Except SpellingFault (Option (Nat × Cursor))
  | _, [] => .ok none
  | offset, c :: rest =>
    match Text.digit? c with
    | some d => .ok (some (d, ⟨offset + 1, rest⟩))
    | none =>
      if Text.isBlank c then readFirstDigit start (offset + c.utf8Size) rest
      else .error (.numberExpected start)

/-- The unit behind an amount. -/
def unitOf (amount : Amount) (name : List Char) : Except SpellingFault TimeUnit :=
  if name.isEmpty then .error (.unitMissing amount.whole)
  else
    match TimeUnit.ofName? (String.ofList name) with
    | some unit => .ok unit
    | none => .error (.unknownUnit (String.ofList name))

/-- Read amounts with units until the text ends, adding them up. Each round takes at least one
character, so as many rounds as characters are enough. -/
def readAmounts : Nat → Sum → Cursor → Except SpellingFault Sum
  | 0, sum, _ => .ok sum
  | rounds + 1, sum, cursor => do
    match ← readFirstDigit cursor.offset cursor.offset cursor.rest with
    | none => return sum
    | some (d, cursor) =>
      let (amount, cursor) ← readAmount d cursor.offset cursor.rest
      let (name, cursor) ← readName cursor.offset cursor.rest
      let unit ← unitOf amount name
      readAmounts rounds (← sum.addAmount amount unit) cursor

/-- Read a span of time. A lone `0` needs no unit. -/
def read (text : String) : Except SpellingFault Span :=
  if text == "0" then .ok .zero
  else do
    let cs := text.toList
    match ← readFirstDigit 0 0 cs with
    | none => throw .empty
    | some _ =>
      let sum ← readAmounts cs.length ⟨0, 0⟩ ⟨0, cs⟩
      return ⟨sum.seconds * perSecond + sum.nanoseconds⟩

/-- An amount with a unit that takes a plural, when it is not zero. -/
def plural (n : Nat) (unit : String) : List String :=
  if n == 0 then [] else if n == 1 then [s!"{n}{unit}"] else [s!"{n}{unit}s"]

/-- An amount with a unit, when it is not zero. -/
def plain (n : Nat) (unit : String) : List String := if n == 0 then [] else [s!"{n}{unit}"]

/-- Spell a span in the largest units first; the parts that are zero are left out. -/
def spell (s : Span) : String :=
  let years := s.seconds / 31557600
  let inYear := s.seconds % 31557600
  let months := inYear / 2630016
  let inMonth := inYear % 2630016
  let inDay := inMonth % 86400
  let nanos := s.subsecond
  let parts :=
    plural years "year" ++ plural months "month" ++ plural (inMonth / 86400) "day"
      ++ plain (inDay / 3600) "h" ++ plain (inDay % 3600 / 60) "m" ++ plain (inDay % 60) "s"
      ++ plain (nanos / 1000000) "ms" ++ plain (nanos / 1000 % 1000) "us" ++ plain (nanos % 1000) "ns"
  if parts.isEmpty then "0s" else " ".intercalate parts

/-- A fraction's digits, `digits` of them, without trailing zeros. -/
def fractionDigits (digits value : Nat) : String :=
  let ds := (Nat.toDigits 10 value)
  let padded := List.replicate (digits - ds.length) '0' ++ ds
  String.ofList (padded.reverse.dropWhile (· == '0')).reverse

/-- A whole number and a fraction of `digits` places, `1.5`. -/
def decimal (whole digits fraction : Nat) : String :=
  if fraction == 0 then toString whole else s!"{whole}.{fractionDigits digits fraction}"

/-- A span as one decimal number in its largest unit of seconds and below: `1.5s`, `250ms`, `0ns`. -/
def compact (s : Span) : String :=
  if s.seconds > 0 then decimal s.seconds 9 s.subsecond ++ "s"
  else if s.subsecond ≥ 1000000 then decimal (s.subsecond / 1000000) 6 (s.subsecond % 1000000) ++ "ms"
  else if s.subsecond ≥ 1000 then decimal (s.subsecond / 1000) 3 (s.subsecond % 1000) ++ "µs"
  else s!"{s.subsecond}ns"

end Span

end Wiretap
