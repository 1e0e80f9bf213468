/-! # Points in time

A point in time is counted in milliseconds from the beginning of the year 1970, and written as a
date and a time of day in UTC.
-/

namespace Wiretap

/-- A point in time. -/
structure Stamp where
  milliseconds : Nat
  deriving Repr, DecidableEq, BEq

namespace Stamp

def perDay : Nat := 86400000

def isLeap (year : Nat) : Bool := year % 4 == 0 && (year % 100 != 0 || year % 400 == 0)

def monthLengths (year : Nat) : List Nat :=
  [31, if isLeap year then 29 else 28, 31, 30, 31, 30, 31, 31, 30, 31, 30, 31]

def yearLength (year : Nat) : Nat := if isLeap year then 366 else 365

/-- Which of several stretches of days a day falls into, and which day of it that is. -/
def locate : List Nat → Nat → Nat × Nat
  | [], day => (0, day)
  | stretch :: rest, day =>
    if day < stretch then (0, day)
    else
      let (n, d) := locate rest (day - stretch)
      (n + 1, d)

def epoch : Nat := 1970

/-- The year that a day falls into, and the day in it. A year has at least 365 days. -/
def yearOf (day : Nat) : Nat × Nat :=
  let (n, d) := locate ((List.range (day / 365 + 1)).map fun n => yearLength (epoch + n)) day
  (epoch + n, d)

def padded (width n : Nat) : String :=
  let digits := Nat.toDigits 10 n
  String.ofList (List.replicate (width - digits.length) '0' ++ digits)

def dateText (day : Nat) : String :=
  let (year, d) := yearOf day
  let (month, d) := locate (monthLengths year) d
  s!"{padded 4 year}-{padded 2 (month + 1)}-{padded 2 (d + 1)}"

def timeText (milliseconds : Nat) : String :=
  let seconds := milliseconds / 1000
  s!"{padded 2 (seconds / 3600)}:{padded 2 (seconds / 60 % 60)}:{padded 2 (seconds % 60)}" ++
    s!".{padded 3 (milliseconds % 1000)}"

def toText (s : Stamp) : String :=
  s!"{dateText (s.milliseconds / perDay)}T{timeText (s.milliseconds % perDay)}Z"

end Stamp

end Wiretap
