import Wiretap.Text.Alphanumeric
import Wiretap.Text.Numeral
/-! # Patterns

Regular expressions, as far as it takes to tell whether one can be used. A pattern must be readable,
and it must do without tables of characters: classes by a property, cases of letters, and the bounds
of words are known for ASCII only, where a pattern asks for that.
-/

namespace Wiretap.Text

/-- Why a pattern cannot be used. -/
inductive PatternFault where
  | unreadable
  /-- It looks for the bounds of words in all scripts. -/
  | wordBounds
  deriving Repr, DecidableEq, BEq

def PatternFault.message : PatternFault → String
  | .unreadable => "error building NFA"
  | .wordBounds =>
    "unsupported regex feature for DFAs: cannot build DFAs for regexes with Unicode word " ++
      "boundaries; switch to ASCII word boundaries, or heuristically enable Unicode word " ++
      "boundaries or use a different regex engine"

/-- What a pattern may switch on and off for a group. -/
structure PatternMode where
  ignoresCase : Bool := false
  isUnicode : Bool := true
  deriving Repr, DecidableEq, BEq

/-- What has been read of a pattern. -/
structure PatternProgress where
  mode : PatternMode := {}
  /-- The modes to go back to behind the groups that are open, the innermost first. -/
  groups : List PatternMode := []
  /-- Whether there is something in front that can be repeated. -/
  isRepeatable : Bool := false
  /-- The names of groups so far. -/
  names : List (List Char) := []
  boundsWords : Bool := false
  deriving Repr, DecidableEq, BEq

namespace Pattern

/-! ## Escapes -/

/-- What an escape stands for. -/
inductive Escaped where
  | character (codePoint : Nat)
  | set
  | position (boundsWords : Bool)
  deriving Repr, DecidableEq, BEq

/-- The character of a fixed number of hexadecimal digits. -/
def codePoint (digits : Nat) (cs : List Char) : Option (Escaped × List Char) := do
  if cs.length < digits then none
  let values ← (cs.take digits).mapM hexDigit?
  let n := values.foldl (fun n d => n * 16 + d) 0
  if n < 0xD800 ∨ (0xDFFF < n ∧ n < 0x110000) then some (.character n, cs.drop digits) else none

/-- What stands behind a backslash. -/
def escape (mode : PatternMode) : List Char → Option (Escaped × List Char)
  | [] => none
  | c :: rest =>
    match c with
    | 'x' => codePoint 2 rest
    | 'u' => codePoint 4 rest
    | 'U' => codePoint 8 rest
    | 'd' | 's' | 'w' => if mode.isUnicode then none else some (.set, rest)
    | 'a' => some (.character 7, rest)
    | 'f' => some (.character 12, rest)
    | 't' => some (.character 9, rest)
    | 'n' => some (.character 10, rest)
    | 'r' => some (.character 13, rest)
    | 'v' => some (.character 11, rest)
    | 'A' | 'z' => some (.position false, rest)
    | 'b' => if rest.head? == some '\x7b' then none else some (.position mode.isUnicode, rest)
    | 'B' | '<' | '>' => some (.position mode.isUnicode, rest)
    | c =>
      if c.toNat < 128 && !c.isAlphanum then some (.character c.toNat, rest) else none

/-! ## Sets of characters in brackets -/

def setNames : List String :=
  ["alnum", "alpha", "ascii", "blank", "cntrl", "digit", "graph", "lower", "print", "punct",
   "space", "upper", "word", "xdigit"]

/-- What stands behind a named set in brackets, if that is what stands behind a bracket. -/
def namedSet? : List Char → Option (List Char)
  | ':' :: rest =>
    let rest := if rest.head? == some '^' then rest.tail else rest
    let name := rest.takeWhile (· != ':')
    match rest.dropWhile (· != ':') with
    | ':' :: ']' :: after => if setNames.contains (String.ofList name) then some after else none
    | _ => none
  | _ => none

/-- What stands behind the bracket that opens a set: a circumflex negates the set, and hyphens and a
closing bracket that come first belong to it. -/
def openSet (mode : PatternMode) (cs : List Char) : Option (List Char) :=
  let negates := cs.head? == some '^'
  if negates && !mode.isUnicode then none
  else
    let cs := if negates then cs.tail else cs
    match cs.dropWhile (· == '-') with
    | [] => none
    | c :: rest => some (if c == ']' && cs.head? != some '-' then rest else c :: rest)

/-- A member of a set: a character or a set of its own. -/
def member (mode : PatternMode) : List Char → Option (Option Nat × List Char)
  | [] => none
  | '\\' :: rest => do
    match ← escape mode rest with
    | (.character n, rest) => return (some n, rest)
    | (.set, rest) => return (none, rest)
    | (.position _, _) => none
  | c :: rest => if c.toNat < 128 || mode.isUnicode then some (some c.toNat, rest) else none

/-- A member of a set, or a range between two. -/
def range (mode : PatternMode) (cs : List Char) : Option (List Char) := do
  let (first, rest) ← member mode cs
  match rest with
  | [] => none
  | '-' :: after =>
    match after with
    | [] => none
    | c :: _ =>
      if c == ']' || c == '-' then return rest
      let (last, rest) ← member mode after
      if (← first) ≤ (← last) then return rest else none
  | _ => return rest

/-- What stands behind a set that is inside so many others, in at most so many rounds. -/
def set (mode : PatternMode) : Nat → Nat → List Char → Option (List Char)
  | 0, _, _ => none
  | rounds + 1, depth, cs =>
    match cs with
    | [] => none
    | '[' :: rest =>
      match namedSet? rest with
      | some rest => set mode rounds depth rest
      | none => do set mode rounds (depth + 1) (← openSet mode rest)
    | ']' :: rest =>
      match depth with
      | 0 => some rest
      | depth + 1 => set mode rounds depth rest
    | '&' :: '&' :: rest | '-' :: '-' :: rest | '~' :: '~' :: rest => set mode rounds depth rest
    | cs => do set mode rounds depth (← range mode cs)

/-! ## Groups -/

def switches : List Char := ['i', 'm', 's', 'U', 'u', 'R', 'x']

/-- Read switches up to a colon or a closing parenthesis: the mode, and whether there were any. -/
def readSwitches :
    PatternMode → Bool → List Char → List Char → Option (PatternMode × Bool × List Char)
  | _, _, _, [] => none
  | mode, isOn, seen, c :: rest =>
    if c == ':' || c == ')' then
      if seen.head? == some '-' then none else some (mode, !seen.isEmpty, c :: rest)
    else if seen.contains c then none
    else if c == '-' then readSwitches mode false (c :: seen) rest
    else if switches.contains c then
      let mode :=
        if c == 'i' then { mode with ignoresCase := isOn }
        else if c == 'u' then { mode with isUnicode := isOn }
        else mode
      readSwitches mode isOn (c :: seen) rest
    else none

/-- Whether a character may stand in the name of a group, as the first one or behind it. -/
def mayName (isFirst : Bool) (c : Char) : Bool :=
  c == '_' || (isAlphanumeric c && !(isFirst && c.isDigit))
    || (!isFirst && (c == '.' || c == '[' || c == ']'))

def enter (p : PatternProgress) (mode : PatternMode) : PatternProgress :=
  { p with mode, groups := p.mode :: p.groups, isRepeatable := false }

def enterNamed (p : PatternProgress) (cs : List Char) : Option (PatternProgress × List Char) :=
  let name := cs.takeWhile (· != '>')
  match name, cs.dropWhile (· != '>') with
  | first :: more, _ :: rest =>
    if mayName true first && more.all (mayName false) && !p.names.contains name then
      some ({ enter p p.mode with names := name :: p.names }, rest)
    else none
  | _, _ => none

/-- What stands behind an opening parenthesis. -/
def group (p : PatternProgress) : List Char → Option (PatternProgress × List Char)
  | '?' :: 'P' :: '<' :: rest => enterNamed p rest
  | '?' :: '<' :: rest => enterNamed p rest
  | '?' :: rest => do
    let (mode, isAny, rest) ← readSwitches p.mode true [] rest
    match rest with
    | ':' :: rest => return (enter p mode, rest)
    | _ => if isAny then return ({ p with mode, isRepeatable := false }, rest.tail) else none
  | rest => some (enter p p.mode, rest)

/-! ## Patterns -/

def item (p : PatternProgress) (rest : List Char) : Option (PatternProgress × List Char) :=
  some ({ p with isRepeatable := true }, rest)

def character (p : PatternProgress) (rest : List Char) : Option (PatternProgress × List Char) :=
  if p.mode.ignoresCase && p.mode.isUnicode then none else item p rest

/-- Read one piece of a pattern. -/
def piece (p : PatternProgress) : List Char → Option (PatternProgress × List Char)
  | [] => some (p, [])
  | '(' :: rest => group p rest
  | ')' :: rest =>
    match p.groups with
    | [] => none
    | mode :: groups => item { p with mode, groups } rest
  | '|' :: rest => some ({ p with isRepeatable := false }, rest)
  | '[' :: rest => do
    if p.mode.ignoresCase && p.mode.isUnicode then none
    item p (← set p.mode rest.length 0 (← openSet p.mode rest))
  | '\\' :: rest => do
    match ← escape p.mode rest with
    | (.character _, rest) => character p rest
    | (.set, rest) => item p rest
    | (.position bounds, rest) => item { p with boundsWords := p.boundsWords || bounds } rest
  | '\x7b' :: _ => none
  | '.' :: rest => if p.mode.isUnicode then item p rest else none
  | c :: rest =>
    if c == '?' || c == '*' || c == '+' then
      if p.isRepeatable then some (p, if rest.head? == some '?' then rest.tail else rest) else none
    else if c == '^' || c == '$' then item p rest
    else character p rest

/-- Read pieces up to the end, in at most so many rounds. -/
def pieces : Nat → PatternProgress → List Char → Option PatternProgress
  | _, p, [] => if p.groups.isEmpty then some p else none
  | 0, _, _ => none
  | rounds + 1, p, cs => do
    let (p, rest) ← piece p cs
    pieces rounds p rest

/-- Why a pattern cannot be used, if it cannot. -/
def fault? (pattern : String) : Option PatternFault :=
  match pieces pattern.length {} pattern.toList with
  | none => some .unreadable
  | some p => if p.boundsWords then some .wordBounds else none

end Pattern

end Wiretap.Text
