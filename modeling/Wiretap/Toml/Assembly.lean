import Wiretap.Toml.Value
/-! # Assembling TOML tables

Keys and headers add to a tree of tables that remembers how each table came about, because that
decides what may still be added: a table is defined once, and neither a header nor a dotted key
reopens one that the other defined.
-/

namespace Wiretap.Toml

/-- How a table came about. -/
inductive Origin where
  /-- By its own header, or as the root. -/
  | defined
  /-- As the parent of a table with a header. -/
  | implied
  /-- By a dotted key. -/
  | dotted
  deriving Repr, DecidableEq, BEq

/-- A part of the tree. -/
inductive Node where
  /-- A value, closed to additions. -/
  | value (v : Value)
  /-- A table. -/
  | table (origin : Origin) (entries : List (String × Node))
  /-- An array of tables, the last one first, which is open. -/
  | tables (elements : List (List (String × Node)))
  deriving Inhabited

abbrev Entries := List (String × Node)

namespace Entries

def find? (entries : Entries) (key : String) : Option Node := entries.lookup key

/-- Replace what a key stands for, or add the key at the end. -/
def set (entries : Entries) (key : String) (node : Node) : Entries :=
  if (entries.find? key).isSome then
    entries.map fun (k, n) => if k == key then (k, node) else (k, n)
  else entries ++ [(key, node)]

def erase (entries : Entries) (key : String) : Entries := entries.filter fun (k, _) => k != key

/-- Change the table at the end of a path. Tables on the way that do not exist are made; of an array
of tables the last one is meant. A dotted key may not go through a table with a header. -/
def alter (dotted : Bool) (change : Origin → Entries → Option (α × Entries)) :
    List String → Origin → Entries → Option (α × Entries)
  | [], origin, entries => change origin entries
  | key :: path, _, entries =>
    match entries.find? key with
    | none => do
      let origin := if dotted then Origin.dotted else .implied
      let (a, inner) ← alter dotted change path origin []
      return (a, entries.set key (.table origin inner))
    | some (.value _) => none
    | some (.tables []) => none
    | some (.tables (last :: others)) => do
      let (a, inner) ← alter dotted change path .defined last
      return (a, entries.set key (.tables (inner :: others)))
    | some (.table origin inner) =>
      if dotted && origin == .defined then none
      else do
        let (a, inner) ← alter dotted change path origin inner
        return (a, entries.set key (.table origin inner))

/-- Add a value under a dotted key. Its table has to be one that dotted keys made, or the table at
hand if there are no dots. -/
def addValue (entries : Entries) (path : List String) (key : String) (value : Value) :
    Option Entries := do
  let add (origin : Origin) (inner : Entries) : Option (Unit × Entries) :=
    if (origin == .dotted) == path.isEmpty then none
    else if (inner.find? key).isSome then none
    else some ((), inner ++ [(key, .value value)])
  let ((), entries) ← alter true add path .defined entries
  return entries

/-- Open a table by its header. Only a table that was merely implied may exist already; it moves
behind its siblings when it is closed. -/
def openTable (entries : Entries) (path : List String) (key : String) :
    Option (Entries × Entries) :=
  let start (_ : Origin) (inner : Entries) : Option (Entries × Entries) :=
    match inner.find? key with
    | none => some ([], inner)
    | some (.table .implied kept) => some (kept, inner.erase key)
    | some _ => none
  alter false start path .defined entries

/-- Close a table that was opened by its header. -/
def closeTable (entries : Entries) (path : List String) (key : String) (table : Entries) :
    Option Entries := do
  let finish (_ : Origin) (inner : Entries) : Option (Unit × Entries) :=
    match inner.find? key with
    | none => some ((), inner ++ [(key, .table .defined table)])
    | some (.table .defined _) => none
    | some (.table _ _) => some ((), inner.set key (.table .defined table))
    | some _ => none
  let ((), entries) ← alter false finish path .defined entries
  return entries

/-- Open an element of an array of tables by its header. -/
def openElement (entries : Entries) (path : List String) (key : String) : Option Entries := do
  let start (_ : Origin) (inner : Entries) : Option (Unit × Entries) :=
    match inner.find? key with
    | none => some ((), inner ++ [(key, .tables [])])
    | some (.tables _) => some ((), inner)
    | some _ => none
  let ((), entries) ← alter false start path .defined entries
  return entries

/-- Close an element of an array of tables. -/
def closeElement (entries : Entries) (path : List String) (key : String) (table : Entries) :
    Option Entries := do
  let finish (_ : Origin) (inner : Entries) : Option (Unit × Entries) :=
    match inner.find? key with
    | none => some ((), inner ++ [(key, .tables [table])])
    | some (.tables elements) => some ((), inner.set key (.tables (table :: elements)))
    | some _ => none
  let ((), entries) ← alter false finish path .defined entries
  return entries

end Entries

mutual

def Node.toValue : Node → Value
  | .value v => v
  | .table _ entries => .table (Node.toValues entries)
  | .tables elements => .array (Node.toTables elements).reverse

def Node.toValues : List (String × Node) → List (String × Value)
  | [] => []
  | (key, node) :: rest => (key, node.toValue) :: Node.toValues rest

/-- The values of finished tables, in the order in which they stand. -/
def Node.toTables : List (List (String × Node)) → List Value
  | [] => []
  | entries :: rest => .table (Node.toValues entries) :: Node.toTables rest

end

end Wiretap.Toml
