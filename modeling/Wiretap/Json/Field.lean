import Wiretap.Json.Number
/-! # Values in JSON texts

Readers of single values of a known shape. A value of another shape is only looked at as far as is
needed to name it. A value that nobody asks for is passed over, however deep it is.
-/

namespace Wiretap.Json

/-- What the text begins with. -/
def found : Bytes → Except Fault Found
  | [] => .error .truncated
  | bytes@(b :: rest) =>
    if b == code 'n' then do
      let _ ← word ['u', 'l', 'l'] rest
      return .null
    else if b == code 't' then do
      let _ ← word ['r', 'u', 'e'] rest
      return .boolean true
    else if b == code 'f' then do
      let _ ← word ['a', 'l', 's', 'e'] rest
      return .boolean false
    else if b == 34 then return .string (← stringRest rest).1
    else if b == code '[' then .ok .sequence
    else if b == code '\x7b' then .ok .map
    else if b == 45 || isDigit b then return (← Number.read bytes).1.found
    else .error .malformed

def wrongType (expected : String) (bytes : Bytes) : Except Fault α := do
  throw (.shape (.wrongType (← found bytes) expected))

def text : Reader String := fun bytes =>
  match skipSpace bytes with
  | 34 :: rest => stringRest rest
  | bytes => wrongType "a string" bytes

/-- An unsigned integer of at most `bound`. -/
def unsigned (bound : Nat) (expected : String) : Reader Nat := fun bytes =>
  match skipSpace bytes with
  | [] => .error .truncated
  | bytes@(b :: _) =>
    if b == 45 || isDigit b then do
      let (n, rest) ← Number.read bytes
      match n with
      | .unsigned n =>
        if n ≤ bound then return (n, rest)
        else throw (.shape (.wrongValue (.integer n) expected))
      | .negative n => throw (.shape (.wrongValue (.integer (-n)) expected))
      | .float .. => throw (.shape (.wrongType n.found expected))
    else wrongType expected bytes

/-- Nothing, spelled `null`. -/
def nothing : Reader Unit := fun bytes =>
  match skipSpace bytes with
  | 110 :: rest => return ((), ← word ['u', 'l', 'l'] rest)
  | bytes => wrongType "unit" bytes

/-! ## Values that are passed over -/

/-- The bytes behind an escape in a string that nobody looks at. -/
def skipEscape : Bytes → Except Fault Bytes
  | [] => .error .truncated
  | 117 :: rest => return (← unit rest).2
  | b :: rest =>
    if [34, 92, 47, 98, 102, 110, 114, 116].contains b then .ok rest else .error .malformed

/-- The bytes behind the rest of a string that nobody looks at, within as many pieces as a bound has
octets. -/
def skipPieces : Bytes → Bytes → Except Fault Bytes
  | _, [] => .error .truncated
  | [], _ => .error .malformed
  | _ :: n, b :: rest =>
    if b == 34 then .ok rest
    else if b == 92 then do skipPieces n (← skipEscape rest)
    else if b < 32 then .error .malformed
    else skipPieces n rest

/-- The bytes behind the rest of a string that nobody looks at. -/
def skipString (bytes : Bytes) : Except Fault Bytes := skipPieces bytes bytes

mutual
/-- The bytes behind a value, within a number of values. -/
def skipValue : Nat → Bytes → Except Fault Bytes
  | 0, _ => .error .malformed
  | n + 1, bytes =>
    match skipSpace bytes with
    | [] => .error .truncated
    | bytes@(b :: rest) =>
      if b == code 'n' then word ['u', 'l', 'l'] rest
      else if b == code 't' then word ['r', 'u', 'e'] rest
      else if b == code 'f' then word ['a', 'l', 's', 'e'] rest
      else if b == 34 then skipString rest
      else if b == 45 || isDigit b then Number.skip bytes
      else if b == code '[' then skipElements n true rest
      else if b == code '\x7b' then skipEntries n true rest
      else .error .malformed

/-- The bytes behind the rest of a row. -/
def skipElements : Nat → Bool → Bytes → Except Fault Bytes
  | 0, _, _ => .error .malformed
  | n + 1, isFirst, bytes => do
    match ← nextElement isFirst bytes with
    | none => mark ']' bytes
    | some bytes => skipElements n false (← skipValue n bytes)

/-- The bytes behind the rest of a table. -/
def skipEntries : Nat → Bool → Bytes → Except Fault Bytes
  | 0, _, _ => .error .malformed
  | n + 1, isFirst, bytes =>
    match skipSpace bytes with
    | [] => .error .truncated
    | b :: rest =>
      if b == code '\x7d' then .ok rest
      else do
        let bytes ← if isFirst then pure (b :: rest)
          else if b == code ',' then pure rest
          else throw .malformed
        let afterKey ← skipString (← mark '"' bytes)
        skipEntries n false (← skipValue n (← mark ':' afterKey))
end

/-- The bytes behind a value that nobody looks at, where at most so many bytes are left. -/
def skip (left : Nat) (bytes : Bytes) : Except Fault Bytes := skipValue (2 * left + 2) bytes

end Wiretap.Json
