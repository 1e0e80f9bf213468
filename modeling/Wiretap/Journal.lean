/-! # The journal

What a program reports about its own work: entries of a level, with a message and named values.
-/

namespace Wiretap

/-- How important an entry is, the most detailed level first. -/
inductive Level where
  | trace | debug | info | warn | error
  deriving Repr, DecidableEq, BEq, Ord

def Level.name : Level → String
  | .trace => "TRACE"
  | .debug => "DEBUG"
  | .info => "INFO"
  | .warn => "WARN"
  | .error => "ERROR"

/-- The parts of the program that make entries. -/
inductive Part where
  | program
  /-- Loading settings from a file. -/
  | loader
  /-- Watching the settings file, and applying what it becomes. -/
  | watcher
  | console
  /-- The station where inspectors are installed. -/
  | station
  | inspectors
  /-- The counters' service. -/
  | service
  | supervisor
  | dialling
  | doorway
  | session
  | lane
  | shutdown
  deriving Repr, DecidableEq, BEq

/-- The value of a field. -/
inductive FieldValue where
  | text (value : String)
  /-- A text that is shown between quotes. -/
  | quoted (value : String)
  | number (value : Nat)
  | flag (value : Bool)
  deriving Repr, DecidableEq, BEq

abbrev Fields := List (String × FieldValue)

/-- Something that a part of the program is in the middle of. -/
structure Undertaking where
  part : Part
  name : String
  fields : Fields
  deriving Repr, DecidableEq, BEq

/-- One entry. -/
structure Entry where
  level : Level
  part : Part
  message : String
  fields : Fields := []
  /-- What the entry is made in the middle of. -/
  amid : Option Undertaking := none
  deriving Repr, DecidableEq, BEq

namespace Entry

def debug (part : Part) (message : String) (fields : Fields := []) : Entry :=
  { level := .debug, part, message, fields }

def info (part : Part) (message : String) (fields : Fields := []) : Entry :=
  { level := .info, part, message, fields }

def warn (part : Part) (message : String) (fields : Fields := []) : Entry :=
  { level := .warn, part, message, fields }

def error (part : Part) (message : String) (fields : Fields := []) : Entry :=
  { level := .error, part, message, fields }

def within (undertaking : Undertaking) (e : Entry) : Entry := { e with amid := some undertaking }

end Entry

abbrev Journal := List Entry

def Journal.at (levels : List Level) (j : Journal) : Journal := j.filter (levels.contains ·.level)

end Wiretap
