/-! # Sizes of words

How many numbers fit in a word of so many bits, and which sums do.
-/

namespace Wiretap.Word

/-- `2 ^ 32`, the number of 32-bit words. -/
def count32 : Nat := 0x100000000

/-- `2 ^ 63`, the number of 64-bit words without a sign bit. -/
def half64 : Nat := 0x8000000000000000

/-- `2 ^ 64`, the number of 64-bit words. -/
def count64 : Nat := 0x10000000000000000

def addsUp (a b : UInt64) : Bool := a.toNat + b.toNat < count64

end Wiretap.Word
