/-! # Spans of time

A span is a whole number of nanoseconds. The largest one has just under `2 ^ 64` seconds.
-/

namespace Wiretap

/-- A length of time. -/
structure Span where
  nanoseconds : Nat
  deriving Repr, DecidableEq, BEq, Inhabited

namespace Span

def perSecond : Nat := 1000000000

def zero : Span := ⟨0⟩

def milliseconds (n : Nat) : Span := ⟨n * 1000000⟩

def seconds (s : Span) : Nat := s.nanoseconds / perSecond

def subsecond (s : Span) : Nat := s.nanoseconds % perSecond

def wholeMilliseconds (s : Span) : Nat := s.nanoseconds / 1000000

def add (a b : Span) : Span := ⟨a.nanoseconds + b.nanoseconds⟩

def sub (a b : Span) : Span := ⟨a.nanoseconds - b.nanoseconds⟩

instance : Add Span := ⟨add⟩
instance : Sub Span := ⟨sub⟩

end Span

end Wiretap
