import Wiretap.Number.Word
import Wiretap.Text.Numeral
import Wiretap.Toml.Value
/-! # TOML notation of keys, strings, numbers and moments

Readers take the characters in front and give what they stand for with the characters left. They
fail without saying why: a document with any fault in its notation is refused as a whole.
-/

namespace Wiretap.Toml

/-- A reader takes something off the front of the characters, or fails. -/
abbrev Reader (α : Type) := List Char → Option (α × List Char)

def literal (word : String) : Reader Unit := fun cs =>
  let w := word.toList
  if w.isPrefixOf cs then some ((), cs.drop w.length) else none

def isSpace (c : Char) : Bool := c == ' ' || c == '\t'

def skipSpaces (cs : List Char) : List Char := cs.dropWhile isSpace

/-- Take a line break off the front: a line feed, with or without a carriage return before it. -/
def newline? : List Char → Option (List Char)
  | '\n' :: rest => some rest
  | '\r' :: '\n' :: rest => some rest
  | _ => none

/-- Characters beyond ASCII stand for themselves in comments and strings. -/
def isBeyondAscii (c : Char) : Bool := c.toNat ≥ 0x80

def isCommentChar (c : Char) : Bool :=
  c == '\t' || (' ' ≤ c && c ≤ '~') || isBeyondAscii c

/-- Skip a comment up to the end of its line, if one is in front. -/
def skipComment : List Char → List Char
  | '#' :: rest => rest.dropWhile isCommentChar
  | cs => cs

def isBasicChar (c : Char) : Bool :=
  isSpace c || c == '!' || ('#' ≤ c && c ≤ '[') || (']' ≤ c && c ≤ '~') || isBeyondAscii c

def isLiteralChar (c : Char) : Bool :=
  c == '\t' || (' ' ≤ c && c ≤ '&') || ('(' ≤ c && c ≤ '~') || isBeyondAscii c

def ofCodePoint? (n : Nat) : Option Char :=
  if n < 0xD800 ∨ (0xDFFF < n ∧ n < 0x110000) then some (Char.ofNat n) else none

def hexNumber : Nat → Nat → Reader Nat
  | 0, value, cs => some (value, cs)
  | _ + 1, _, [] => none
  | n + 1, value, c :: rest => do hexNumber n (value * 16 + (← Text.hexDigit? c)) rest

/-- Read what stands behind a backslash. -/
def escape : Reader Char
  | 'b' :: rest => some ('\x08', rest)
  | 't' :: rest => some ('\t', rest)
  | 'n' :: rest => some ('\n', rest)
  | 'f' :: rest => some ('\x0c', rest)
  | 'r' :: rest => some ('\r', rest)
  | '"' :: rest => some ('"', rest)
  | '\\' :: rest => some ('\\', rest)
  | 'u' :: rest => do
    let (n, rest) ← hexNumber 4 0 rest
    return (← ofCodePoint? n, rest)
  | 'U' :: rest => do
    let (n, rest) ← hexNumber 8 0 rest
    return (← ofCodePoint? n, rest)
  | _ => none

/-- Read a string between double quotes, behind the first of them, in at most as many rounds as a bound
has characters. Each round takes at least one character off, so what is read is bound enough. -/
def basicString : List Char → Reader (List Char)
  | [], _ => none
  | _, [] => none
  | _ :: rounds, c :: rest =>
    if c == '"' then some ([], rest)
    else if c == '\\' then do
      let (e, rest) ← escape rest
      let (tail, rest) ← basicString rounds rest
      return (e :: tail, rest)
    else if isBasicChar c then do
      let (tail, rest) ← basicString rounds rest
      return (c :: tail, rest)
    else none

/-- Read a string between single quotes, behind the first of them. -/
def literalString : Reader (List Char)
  | [] => none
  | c :: rest =>
    if c == '\'' then some ([], rest)
    else if isLiteralChar c then do
      let (tail, rest) ← literalString rest
      return (c :: tail, rest)
    else none

def skipBlankLines : List Char → List Char
  | ' ' :: rest => skipBlankLines rest
  | '\t' :: rest => skipBlankLines rest
  | '\n' :: rest => skipBlankLines rest
  | '\r' :: '\n' :: rest => skipBlankLines rest
  | cs => cs

/-- The quotes in front, when they are three or more, close a string; two more may belong to it. -/
def closing? (quote : Char) (cs : List Char) : Option (List Char × List Char) :=
  let run := (cs.takeWhile (· == quote)).length
  if run < 3 then none
  else
    let inside := min (run - 3) 2
    some (List.replicate inside quote, cs.drop (inside + 3))

/-- Read a string between triple double quotes, behind the first of them. A line break is a line
feed, and a backslash at the end of a line takes the blanks and line breaks behind it away. A
bound is given as for other strings. -/
def basicBlock : List Char → Reader (List Char)
  | [], _ => none
  | _, [] => none
  | _ :: rounds, c :: rest =>
    if c == '"' then
      match closing? '"' (c :: rest) with
      | some (inside, rest) => some (inside, rest)
      | none => do
        let (tail, rest) ← basicBlock rounds rest
        return (c :: tail, rest)
    else if c == '\\' then
      match newline? (skipSpaces rest) with
      | some rest => basicBlock rounds (skipBlankLines rest)
      | none => do
        let (e, rest) ← escape rest
        let (tail, rest) ← basicBlock rounds rest
        return (e :: tail, rest)
    else if isBasicChar c then do
      let (tail, rest) ← basicBlock rounds rest
      return (c :: tail, rest)
    else do
      let rest ← newline? (c :: rest)
      let (tail, rest) ← basicBlock rounds rest
      return ('\n' :: tail, rest)

/-- Read a string between triple single quotes, behind the first of them, with a bound. -/
def literalBlock : List Char → Reader (List Char)
  | [], _ => none
  | _, [] => none
  | _ :: rounds, c :: rest =>
    if c == '\'' then
      match closing? '\'' (c :: rest) with
      | some (inside, rest) => some (inside, rest)
      | none => do
        let (tail, rest) ← literalBlock rounds rest
        return (c :: tail, rest)
    else if isLiteralChar c then do
      let (tail, rest) ← literalBlock rounds rest
      return (c :: tail, rest)
    else do
      let rest ← newline? (c :: rest)
      let (tail, rest) ← literalBlock rounds rest
      return ('\n' :: tail, rest)

/-- A line break right behind the opening quotes of a block does not belong to it. -/
def skipFirstBreak (cs : List Char) : List Char := (newline? cs).getD cs

/-- Read a string of any of the four kinds. -/
def string : Reader String := fun cs => do
  let (text, rest) ←
    match cs with
    | '"' :: '"' :: '"' :: rest => basicBlock rest (skipFirstBreak rest)
    | '"' :: rest => basicString rest rest
    | '\'' :: '\'' :: '\'' :: rest => literalBlock rest (skipFirstBreak rest)
    | '\'' :: rest => literalString rest
    | _ => none
  return (String.ofList text, rest)

/-- Characters of a key without quotes. -/
def isKeyChar (c : Char) : Bool :=
  ('a' ≤ c && c ≤ 'z') || ('A' ≤ c && c ≤ 'Z') || ('0' ≤ c && c ≤ '9') || c == '-' || c == '_'

def simpleKey : Reader String
  | '"' :: rest => (basicString rest rest).map fun (k, rest) => (String.ofList k, rest)
  | '\'' :: rest => (literalString rest).map fun (k, rest) => (String.ofList k, rest)
  | cs =>
    let key := cs.takeWhile isKeyChar
    if key.isEmpty then none else some (String.ofList key, cs.drop key.length)

/-- Read keys joined by dots, with blanks around each of them, at most so many. -/
def dottedKey : Nat → Reader (List String)
  | 0, _ => none
  | rounds + 1, cs => do
    let (key, rest) ← simpleKey (skipSpaces cs)
    match skipSpaces rest with
    | '.' :: rest =>
      let (keys, rest) ← dottedKey rounds rest
      return (key :: keys, rest)
    | rest => return ([key], rest)

/-- Arrays and inline tables may not nest so deep, and dots may not join so many keys. -/
def nestingLimit : Nat := 80

def key : Reader (List String) := fun cs => do
  let (keys, rest) ← dottedKey nestingLimit cs
  if keys.length < nestingLimit then some (keys, rest) else none

/-- Read digits, with single underscores between them, behind at least one digit. -/
def moreDigits (isDigit : Char → Bool) : List Char → Option (List Char × List Char)
  | '_' :: c :: rest =>
    if isDigit c then do
      let (tail, rest) ← moreDigits isDigit rest
      return (c :: tail, rest)
    else none
  | ['_'] => none
  | c :: rest =>
    if isDigit c then do
      let (tail, rest) ← moreDigits isDigit rest
      return (c :: tail, rest)
    else some ([], c :: rest)
  | [] => some ([], [])

/-- Read at least one digit, with single underscores between digits. -/
def digits (isDigit : Char → Bool) : Reader (List Char)
  | c :: rest =>
    if isDigit c then do
      let (tail, rest) ← moreDigits isDigit rest
      return (c :: tail, rest)
    else none
  | [] => none

def isDecimal (c : Char) : Bool := '0' ≤ c && c ≤ '9'

def valueOf (base : Nat) (ds : List Char) : Nat :=
  ds.foldl (fun n c => n * base + (Text.hexDigit? c).getD 0) 0

/-- The value of digits in a base. One that no word of 64 bits can hold counts as the first of them. -/
def wordOf (base : Nat) (ds : List Char) : Nat :=
  ds.foldl (fun n c => min (n * base + (Text.hexDigit? c).getD 0) Word.count64) 0

/-- Take a sign off the front; whether it is a minus. -/
def sign : List Char → Bool × List Char
  | '-' :: rest => (true, rest)
  | '+' :: rest => (false, rest)
  | cs => (false, cs)

/-- Read a whole number's digits: a zero stands alone. -/
def wholeDigits : Reader (List Char)
  | '0' :: rest => some (['0'], rest)
  | cs => digits isDecimal cs

def integer? (n : Int) : Option Value :=
  if -(Word.half64 : Int) ≤ n ∧ n < Word.half64 then some (.integer n) else none

/-- Read an integer: decimal with a sign, or in base 16, 8 or 2 without one. -/
def integer : Reader Value
  | '0' :: 'x' :: rest => do
    let (ds, rest) ← digits (fun c => (Text.hexDigit? c).isSome) rest
    return (← integer? (wordOf 16 ds), rest)
  | '0' :: 'o' :: rest => do
    let (ds, rest) ← digits (fun c => '0' ≤ c && c ≤ '7') rest
    return (← integer? (wordOf 8 ds), rest)
  | '0' :: 'b' :: rest => do
    let (ds, rest) ← digits (fun c => c == '0' || c == '1') rest
    return (← integer? (wordOf 2 ds), rest)
  | cs => do
    let (negative, rest) := sign cs
    let (ds, rest) ← wholeDigits rest
    let n : Int := wordOf 10 ds
    return (← integer? (if negative then -n else n), rest)

/-- Read an exponent behind its letter. -/
def exponent : Reader Int := fun cs => do
  let (negative, rest) := sign cs
  let (ds, rest) ← digits isDecimal rest
  let n : Int := wordOf 10 ds
  return (if negative then -n else n, rest)

def exponentMark? : List Char → Option (List Char)
  | 'e' :: rest => some rest
  | 'E' :: rest => some rest
  | _ => none

/-- The float that digits with a power of ten round to. A positive one may not overflow. -/
def float? (negative : Bool) (ds : List Char) (power : Int) : Option Value :=
  match Double.ofDecimal? (valueOf 10 ds) power with
  | some magnitude => some (.float (.finite negative magnitude))
  | none => if negative then some (.float (.infinite true)) else none

/-- Whether the front of a number makes it a float; `none` when the number is broken. -/
def isFloat? (cs : List Char) : Option Bool :=
  match wholeDigits (sign cs).2 with
  | some (_, '.' :: _) => some true
  | some (_, 'e' :: _) => some true
  | some (_, 'E' :: _) => some true
  | some _ => some false
  | none => none

/-- Read a float with a fraction, an exponent or both. -/
def decimalFloat : Reader Value := fun cs => do
  let (negative, rest) := sign cs
  let (whole, rest) ← wholeDigits rest
  match rest with
  | '.' :: rest =>
    let (fraction, rest) ← digits isDecimal rest
    let places : Int := fraction.length
    match exponentMark? rest with
    | some rest =>
      let (power, rest) ← exponent rest
      return (← float? negative (whole ++ fraction) (power - places), rest)
    | none => return (← float? negative (whole ++ fraction) (-places), rest)
  | _ =>
    let rest ← exponentMark? rest
    let (power, rest) ← exponent rest
    return (← float? negative whole power, rest)

def specialFloat : Reader Value := fun cs => do
  let (negative, rest) := sign cs
  match literal "inf" rest with
  | some (_, rest) => return (.float (.infinite negative), rest)
  | none =>
    let (_, rest) ← literal "nan" rest
    return (.float .notANumber, rest)

def decimals : Nat → Nat → Reader Nat
  | 0, value, cs => some (value, cs)
  | _ + 1, _, [] => none
  | n + 1, value, c :: rest => do decimals n (value * 10 + (← Text.digit? c)) rest

def twoDigits (low high : Nat) : Reader Nat := fun cs => do
  let (n, rest) ← decimals 2 0 cs
  if low ≤ n ∧ n ≤ high then some (n, rest) else none

def daysIn (year month : Nat) : Nat :=
  if month = 2 then
    if year % 4 = 0 ∧ (year % 100 ≠ 0 ∨ year % 400 = 0) then 29 else 28
  else if month = 4 ∨ month = 6 ∨ month = 9 ∨ month = 11 then 30
  else 31

def date : Reader Unit := fun cs => do
  let (year, rest) ← decimals 4 0 cs
  let (_, rest) ← literal "-" rest
  let (month, rest) ← twoDigits 1 12 rest
  let (_, rest) ← literal "-" rest
  let (_, rest) ← twoDigits 1 (daysIn year month) rest
  return ((), rest)

/-- Read a time of day. A minute may have a leap second. -/
def time : Reader Unit := fun cs => do
  let (_, rest) ← twoDigits 0 23 cs
  let (_, rest) ← literal ":" rest
  let (_, rest) ← twoDigits 0 59 rest
  let (_, rest) ← literal ":" rest
  let (_, rest) ← twoDigits 0 60 rest
  match rest with
  | '.' :: fraction =>
    let ds := fraction.takeWhile isDecimal
    return ((), if ds.isEmpty then rest else fraction.drop ds.length)
  | _ => return ((), rest)

/-- Read a time zone. -/
def zone : Reader Unit
  | 'Z' :: rest => some ((), rest)
  | 'z' :: rest => some ((), rest)
  | c :: rest =>
    if c == '+' || c == '-' then do
      let (_, rest) ← twoDigits 0 23 rest
      let (_, rest) ← literal ":" rest
      let (_, rest) ← twoDigits 0 59 rest
      return ((), rest)
    else none
  | [] => none

/-- Whether a date or a time of day is in front: four digits and a dash, or two and a colon. -/
def isMoment (cs : List Char) : Bool :=
  match decimals 4 0 cs, decimals 2 0 cs with
  | some (_, '-' :: _), _ => true
  | _, some (n, ':' :: _) => n ≤ 23
  | _, _ => false

/-- Read a date, a time of day, or both with or without a time zone. -/
def moment : Reader Value := fun cs => do
  match decimals 4 0 cs with
  | some (_, '-' :: _) =>
    let (_, afterDate) ← date cs
    match afterDate with
    | c :: rest =>
      if c == 'T' || c == 't' || (c == ' ' && (twoDigits 0 23 rest).isSome) then
        let (_, afterTime) ← time rest
        match afterTime with
        | z :: _ =>
          if z == 'Z' || z == 'z' || z == '+' || z == '-' then
            let (_, rest) ← zone afterTime
            return (.moment, rest)
          else return (.moment, afterTime)
        | [] => return (.moment, [])
      else return (.moment, afterDate)
    | [] => return (.moment, [])
  | _ =>
    let (_, rest) ← time cs
    return (.moment, rest)

/-- Read a value that starts with a digit or a sign. -/
def number : Reader Value := fun cs =>
  if isMoment cs then moment cs
  else
    match isFloat? cs with
    | some true => decimalFloat cs
    | some false => integer cs
    | none => specialFloat cs

/-- Read a value without parts. -/
def scalar : Reader Value
  | '"' :: rest => (string ('"' :: rest)).map fun (s, rest) => (.string s, rest)
  | '\'' :: rest => (string ('\'' :: rest)).map fun (s, rest) => (.string s, rest)
  | c :: rest =>
    if c == '+' || c == '-' || isDecimal c then number (c :: rest)
    else if c == 't' then (literal "true" (c :: rest)).map fun (_, rest) => (.boolean true, rest)
    else if c == 'f' then (literal "false" (c :: rest)).map fun (_, rest) => (.boolean false, rest)
    else if c == 'i' || c == 'n' then specialFloat (c :: rest)
    else none
  | [] => none

end Wiretap.Toml
