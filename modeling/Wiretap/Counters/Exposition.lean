import Wiretap.Counters.Basic
import Wiretap.Number.Double
/-! # Counters as text

The text format in which counters are collected: families in alphabetical order, the ones without a
counter left out, and for each family its help, its type and one line per counter. Values are
rounded to double precision.
-/

namespace Wiretap

def labelChar (c : Char) : List Char :=
  if c == '\\' then ['\\', '\\']
  else if c == '"' then ['\\', '"']
  else if c == '\n' then ['\\', 'n']
  else [c]

def labelText (name value : String) : String :=
  name ++ "=\"" ++ String.ofList (value.toList.flatMap labelChar) ++ "\""

namespace Counter

def namedLabels (c : Counter) : List (String × String) :=
  (c.family.labelNames.zip c.labels).mergeSort fun a b => decide (a.1 ≤ b.1)

def sortKey (c : Counter) : List String := c.namedLabels.map (·.2)

/-- Whether texts come no later than others, the first difference deciding. -/
def isNoLater : List String → List String → Bool
  | [], _ => true
  | _ :: _, [] => false
  | a :: rest, b :: others => decide (a < b) || (a == b && isNoLater rest others)

def line (c : Counter) : String :=
  let labels := ",".intercalate (c.namedLabels.map fun l => labelText l.1 l.2)
  c.family.name ++ "\x7b" ++ labels ++ "\x7d " ++ (Double.ofWord c.value.toNat).positional ++ "\n"

end Counter

namespace Counters

def ofFamily (family : Family) (cs : Counters) : List Counter :=
  (cs.filter (·.family == family)).mergeSort fun a b => Counter.isNoLater a.sortKey b.sortKey

def familyText (cs : Counters) (family : Family) : String :=
  match cs.ofFamily family with
  | [] => ""
  | members =>
    s!"# HELP {family.name} {family.help}\n# TYPE {family.name} counter\n" ++
      String.join (members.map Counter.line)

def expose (cs : Counters) : String := String.join (Family.all.map cs.familyText)

end Counters

end Wiretap
