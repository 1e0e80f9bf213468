import Wiretap.Toml.Assembly
import Wiretap.Toml.Scalar
/-! # Reading TOML documents

A document is a sequence of lines: blank lines, comments, headers and keys with values. Whatever
breaks the notation, or defines something twice, makes the document unreadable as a whole.
-/

namespace Wiretap.Toml

/-- Skip blanks, line breaks and comments, as between the items of an array, in at most so many rounds.
Each round takes at least one character. -/
def skipFiller : Nat → List Char → List Char
  | 0, cs => cs
  | rounds + 1, cs =>
    match skipBlankLines cs with
    | '#' :: rest => skipFiller rounds (skipComment ('#' :: rest))
    | cs => cs

mutual

/-- Read a value. `fuel` bounds the calls below it and `depth` counts the arrays and inline tables
around it. -/
def value (fuel depth : Nat) (cs : List Char) : Option (Value × List Char) :=
  match fuel with
  | 0 => none
  | fuel + 1 =>
    match cs with
    | '[' :: rest =>
      if depth + 1 < nestingLimit then do
        let (items, rest) ← arrayItems fuel (depth + 1) rest
        return (.array items, rest)
      else none
    | '{' :: rest =>
      if depth + 1 < nestingLimit then
        match skipSpaces rest with
        | '}' :: rest => some (.table [], rest)
        | _ => do
          let (entries, rest) ← inlineEntries fuel (depth + 1) [] rest
          return (.table (Node.toValues entries), rest)
      else none
    | cs => scalar cs

/-- Read the items of an array up to its closing bracket; a comma may stand behind the last. -/
def arrayItems (fuel depth : Nat) (cs : List Char) : Option (List Value × List Char) :=
  match fuel with
  | 0 => none
  | fuel + 1 =>
    match skipFiller fuel cs with
    | ']' :: rest => some ([], rest)
    | cs => do
      let (item, rest) ← value fuel depth cs
      match skipFiller fuel rest with
      | ',' :: rest =>
        let (items, rest) ← arrayItems fuel depth rest
        return (item :: items, rest)
      | ']' :: rest => return ([item], rest)
      | _ => none

/-- Read the entries of an inline table up to its closing brace. -/
def inlineEntries (fuel depth : Nat) (entries : Entries) (cs : List Char) :
    Option (Entries × List Char) :=
  match fuel with
  | 0 => none
  | fuel + 1 => do
    let (keys, rest) ← key cs
    let (_, rest) ← literal "=" rest
    let (v, rest) ← value fuel depth (skipSpaces rest)
    let entries ← entries.addValue keys.dropLast (keys.getLast?.getD "") v
    match skipSpaces rest with
    | ',' :: rest => inlineEntries fuel depth entries rest
    | '}' :: rest => some (entries, rest)
    | _ => none

end

/-- The table that lines with keys add to. -/
inductive Heading where
  | root
  | table (path : List String) (key : String)
  | element (path : List String) (key : String)
  deriving Repr, DecidableEq, BEq

/-- What has been read of a document: the closed part of the tree, and the open table. -/
structure Progress where
  closed : Entries
  heading : Heading
  current : Entries

namespace Progress

def start : Progress := ⟨[], .root, []⟩

def close (p : Progress) : Option Entries :=
  match p.heading with
  | .root => some p.current
  | .table path key => p.closed.closeTable path key p.current
  | .element path key => p.closed.closeElement path key p.current

def openTable (p : Progress) (keys : List String) : Option Progress := do
  let closed ← p.close
  let key ← keys.getLast?
  let (kept, closed) ← closed.openTable keys.dropLast key
  return ⟨closed, .table keys.dropLast key, kept⟩

/-- Open an element of an array of tables by its header. -/
def openElement (p : Progress) (keys : List String) : Option Progress := do
  let closed ← p.close
  let key ← keys.getLast?
  let closed ← closed.openElement keys.dropLast key
  return ⟨closed, .element keys.dropLast key, []⟩

def add (p : Progress) (keys : List String) (v : Value) : Option Progress := do
  let key ← keys.getLast?
  let current ← p.current.addValue keys.dropLast key v
  return { p with current }

end Progress

/-- A line ends behind blanks and a comment, with a line break or with the document. -/
def lineEnd (cs : List Char) : Option (List Char) :=
  match skipComment (skipSpaces cs) with
  | [] => some []
  | cs => newline? cs

/-- Read one header, key or line break at the start of a line, where at most so many characters are
left. -/
def line (left : Nat) (p : Progress) (cs : List Char) : Option (Progress × List Char) :=
  match cs with
  | '#' :: _ => do return (p, ← lineEnd cs)
  | '\n' :: _ => do return (p, ← newline? cs)
  | '\r' :: _ => do return (p, ← newline? cs)
  | '[' :: '[' :: rest => do
    let (keys, rest) ← key rest
    let (_, rest) ← literal "]]" rest
    return (← p.openElement keys, ← lineEnd rest)
  | '[' :: rest => do
    let (keys, rest) ← key rest
    let (_, rest) ← literal "]" rest
    return (← p.openTable keys, ← lineEnd rest)
  | cs => do
    let (keys, rest) ← key cs
    let (_, rest) ← literal "=" rest
    let (v, rest) ← value (2 * left + 2) 0 (skipSpaces rest)
    let rest ← lineEnd rest
    return (← p.add keys v, rest)

/-- Read lines up to the end. Each round takes at least one character. -/
def lines : Nat → Progress → List Char → Option Progress
  | 0, p, cs => if cs.isEmpty then some p else none
  | rounds + 1, p, cs =>
    match skipSpaces cs with
    | [] => some p
    | cs => do
      let (p, rest) ← line (rounds + 1) p cs
      lines rounds p rest

def skipByteOrderMark : List Char → List Char
  | '\uFEFF' :: rest => rest
  | cs => cs

def read? (text : String) : Option Document := do
  let cs := skipByteOrderMark text.toList
  let p ← lines cs.length .start cs
  return Node.toValues (← p.close)

end Wiretap.Toml
