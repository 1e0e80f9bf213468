import Wiretap.Journal
/-! # Filters for the journal

Which entries are shown depends on their level and on the part of the program that they come from. A
rule sets the least level for some of the entries: for those from a part and the parts below it, for
those that have a field, or for those that are made in the middle of an undertaking. Of the rules
that ask for no undertaking and for no value the most specific one decides; a rule about an
undertaking can only show more. Without any rule only errors are shown.
-/

namespace Wiretap

/-- The name that filters know a part by. -/
def Part.origin : Part → String
  | .program => "relaytap"
  | .loader => "relaytap::config::manager"
  | .watcher => "relaytap::config::watcher"
  | .console => "relaytap::control"
  | .station => "relaytap::inspect::hook"
  | .inspectors => "relaytap::inspect::builtin"
  | .service => "relaytap::metrics::server"
  | .supervisor => "relaytap::relay::supervisor"
  | .dialling => "relaytap::relay::connector"
  | .doorway => "relaytap::relay::listener"
  | .session => "relaytap::relay::session"
  | .lane => "relaytap::relay::pump"
  | .shutdown => "relaytap::shutdown"

/-- The least important level that is shown. Nothing is shown without one. -/
abbrev Threshold := Option Level

namespace Threshold

def passes (t : Threshold) (level : Level) : Bool := t.any fun least => (compare least level).isLE

def either (a b : Threshold) : Threshold := if b.all a.passes then a else b

end Threshold

/-- What a rule asks of the value of a field. -/
inductive FieldTest where
  | number (value : Nat)
  | flag (value : Bool)
  /-- Something that no number and no flag can be. -/
  | pattern (text : String)
  deriving Repr, DecidableEq, BEq

def FieldTest.accepts : FieldTest → FieldValue → Bool
  | .number n, .number m => n == m
  | .flag a, .flag b => a == b
  | _, _ => false

/-- The name of a field that has to be there, and what is asked of its value. -/
structure FieldCondition where
  name : String
  test : Option FieldTest
  deriving Repr, DecidableEq, BEq

/-- A rule of a filter. -/
structure FilterRule where
  /-- What the names of the parts begin with. -/
  origin : Option String := none
  /-- The name of the undertaking. -/
  undertaking : Option String := none
  condition : Option FieldCondition := none
  threshold : Threshold := some .trace
  deriving Repr, DecidableEq, BEq

namespace FilterRule

/-- Whether a rule decides about entries, whatever they are in the middle of. -/
def isPlain (r : FilterRule) : Bool :=
  r.undertaking.isNone && r.condition.all (·.test.isNone)

/-- Whether a rule is about what happens in the middle of undertakings. A rule with a field alone is
plain, too. -/
def isDeep (r : FilterRule) : Bool := r.undertaking.isSome || r.condition.isSome

def covers (r : FilterRule) (part : Part) : Bool :=
  r.origin.all fun origin => origin.toList.isPrefixOf part.origin.toList

def findsField (r : FilterRule) (names : List String) : Bool :=
  r.condition.all (names.contains ·.name)

def concerns (r : FilterRule) (u : Undertaking) : Bool :=
  r.isDeep && r.covers u.part && r.undertaking.all (· == u.name)
    && r.findsField (u.fields.map (·.1))

/-- Whether the fields of an undertaking have the value that a rule asks for. -/
def holdsFor (r : FilterRule) (u : Undertaking) : Bool :=
  match r.condition with
  | some ⟨name, some test⟩ => (u.fields.lookup name).any test.accepts
  | _ => true

/-- How specific a plain rule is: the longer name of a part comes first, then the field. -/
def specificity (r : FilterRule) : Nat × Nat × String :=
  (r.origin.elim 0 (·.utf8ByteSize + 1), if r.condition.isSome then 1 else 0,
    r.condition.elim "" (·.name))

/-- Whether a rule is at least as specific as another one. -/
def outranks (r b : FilterRule) : Bool :=
  let (origin, fields, name) := r.specificity
  let (origin', fields', name') := b.specificity
  origin' < origin || (origin' == origin &&
    (fields' < fields || (fields' == fields && (compare name' name).isLE)))

end FilterRule

/-- A filter. Of two rules that are about the same the later one holds. -/
structure JournalFilter where
  rules : List FilterRule
  deriving Repr, DecidableEq, BEq, Inhabited

namespace JournalFilter

def better (best : Option FilterRule) (r : FilterRule) : Option FilterRule :=
  if best.all r.outranks then some r else best

def decide (rules : List FilterRule) : Threshold := (rules.foldl better none).bind (·.threshold)

/-- The plain rules, of which one for errors stands in where there is no rule at all. -/
def plainRules (f : JournalFilter) : List FilterRule :=
  if f.rules.isEmpty then [{ threshold := some .error }] else f.rules.filter (·.isPlain)

/-- The threshold for what happens in the middle of an undertaking. -/
def depth (f : JournalFilter) (u : Undertaking) : Threshold :=
  (f.rules.filter fun r => r.concerns u && r.holdsFor u).foldl
    (fun t r => t.either r.threshold) none

def shows (f : JournalFilter) (e : Entry) : Bool :=
  let names := "message" :: e.fields.map (·.1)
  let rules := f.plainRules.filter fun r => r.covers e.part && r.findsField names
  (e.amid.any fun u => (f.depth u).passes e.level) || (decide rules).passes e.level

def showsUndertaking (f : JournalFilter) (u : Undertaking) : Bool :=
  f.rules.any (·.concerns u) || (decide (f.plainRules.filter (·.covers u.part))).passes .info

end JournalFilter

end Wiretap
