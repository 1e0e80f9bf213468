import Wiretap.Json.Field
/-! # Values of any shape in JSON texts

A value that is read without knowing its shape. Rows and tables may stand inside each other up to a
certain depth. Of two entries with the same key the later one holds.
-/

namespace Wiretap.Json

/-- A value. -/
inductive Value where
  | null
  | boolean (value : Bool)
  | number (value : Number)
  | string (text : String)
  | row (elements : List Value)
  | table (entries : List (String × Value))
  deriving Inhabited

namespace Value

def found : Value → Found
  | null => .null
  | boolean value => .boolean value
  | number value => value.found
  | string text => .string text
  | row _ => .sequence
  | table _ => .map

def get? (key : String) : Value → Option Value
  | table entries => entries.lookup key
  | _ => none

/-- Put an entry into a table, in the place of an earlier one with its key. -/
def putEntry (entry : String × Value) (entries : List (String × Value)) : List (String × Value) :=
  entries.filter (·.1 != entry.1) ++ [entry]

/-- The elements of a row behind its bracket, within as many elements as a bound has octets. -/
def elements (element : Reader Value) : Bytes → Bool → Reader (List Value)
  | [], _, _ => .error .malformed
  | _ :: n, isFirst, bytes => do
    match ← nextElement isFirst bytes with
    | none => return ([], ← mark ']' bytes)
    | some bytes =>
      let (value, rest) ← element bytes
      let (more, rest) ← elements element n false rest
      return (value :: more, rest)

/-- The entries of a table behind its brace, added to earlier ones, within as many entries as a bound
has octets. -/
def entries (value : Reader Value) :
    Bytes → Bool → List (String × Value) → Reader (List (String × Value))
  | [], _, _, _ => .error .malformed
  | _ :: n, isFirst, earlier, bytes => do
    match ← nextKey isFirst bytes with
    | none => return (earlier, ← mark '\x7d' bytes)
    | some (key, rest) =>
      let (v, rest) ← value (← mark ':' rest)
      entries value n false (putEntry (key, v) earlier) rest

/-- A value of at most some depth. -/
def readWithin (depth : Nat) : Reader Value := fun bytes =>
  match skipSpace bytes with
  | [] => .error .truncated
  | bytes@(b :: rest) =>
    if b == code 'n' then do return (null, ← word ['u', 'l', 'l'] rest)
    else if b == code 't' then do return (boolean true, ← word ['r', 'u', 'e'] rest)
    else if b == code 'f' then do return (boolean false, ← word ['a', 'l', 's', 'e'] rest)
    else if b == 34 then (stringRest rest).map fun (text, rest) => (string text, rest)
    else if b == 45 || isDigit b then (Number.read bytes).map fun (n, rest) => (number n, rest)
    else
      match depth with
      | 0 => .error .malformed
      | inner + 1 =>
        if b == code '[' then
          (elements (readWithin inner) bytes true rest).map fun (vs, rest) => (row vs, rest)
        else if b == code '\x7b' then
          (entries (readWithin inner) bytes true [] rest).map fun (es, rest) =>
            (table es, rest)
        else .error .malformed

def depthLimit : Nat := 127

def ofBytes (bytes : Bytes) : Except Fault Value := do
  let (value, rest) ← readWithin depthLimit bytes
  if (skipSpace rest).isEmpty then return value else throw .malformed

end Value

end Wiretap.Json
