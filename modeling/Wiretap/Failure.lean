import Wiretap.IoFault
import Wiretap.Settings.Rules
import Wiretap.Shape
/-! # Failures with their context

A failure has a cause, and the activities it got in the way of, the outermost one first. Its wording
names the activities and then the cause.
-/

namespace Wiretap

/-- Why something could not be done. -/
inductive Cause where
  /-- A document is not written in the language of documents. -/
  | malformedDocument
  | shape (fault : ShapeFault)
  | rule (fault : RuleFault)
  | io (fault : IoFault)
  | numeral (fault : Text.NumeralFault)
  | address
  | spelling (fault : SpellingFault)
  | unknownInspector (kind : String)
  /-- A record's data is not in base 64. -/
  | garbledData
  /-- The system refuses to watch a folder. -/
  | unwatchable
  | noParentFolder (path : String)
  /-- The handlers of the process's signals cannot be set up. -/
  | noSignals
  deriving Repr, DecidableEq, BEq

/-- What could not be done. -/
inductive Activity where
  | validating
  | validatingRelays
  | validatingInspector
  | validatingFinally
  | readingFile (path : String)
  | parsingFile (path : String)
  | overriding (name value : String)
  | openingCapture (path : String)
  | buildingInspector
  | rebuildingInspector
  | watching (folder : String)
  | decodingRecord
  deriving Repr, DecidableEq, BEq

/-- A cause within the activities that it ended, outermost first. -/
structure Failure where
  activities : List Activity
  cause : Cause
  deriving Repr, DecidableEq, BEq

/-- The wording of an activity that failed. -/
def Activity.message : Activity → String
  | .validating => "Configuration validation failed"
  | .validatingRelays => "Relay configuration validation failed"
  | .validatingInspector => "Inspector configuration validation failed"
  | .validatingFinally => "Final configuration validation failed"
  | .readingFile path => s!"Failed to read config file: {path}"
  | .parsingFile path => s!"Failed to parse config file: {path}"
  | .overriding name value => s!"Invalid {name}: {value}"
  | .openingCapture path => s!"Failed to open capture file: {path}"
  | .buildingInspector => "Failed to build inspector"
  | .rebuildingInspector => "Failed to build reloaded inspector"
  | .watching folder => s!"Failed to watch directory: {folder}"
  | .decodingRecord => "capture record holds invalid base64"

/-- The wording of a cause. Two kinds of causes have none: their activity says it all. -/
def Cause.message? : Cause → Option String
  | .malformedDocument => some "<toml syntax>"
  | .shape fault => some fault.message
  | .rule fault => some fault.message
  | .io fault => some fault.message
  | .numeral fault => some fault.message
  | .address => some "invalid IP address syntax"
  | .spelling fault => some fault.message
  | .unknownInspector kind =>
    some s!"Unknown inspector kind: {kind} (expected noop, log or capture)"
  | .garbledData | .unwatchable => none
  | .noParentFolder path => some s!"Configuration file has no parent directory: {path}"
  | .noSignals => some "signal handlers unavailable"

namespace Failure

def of (cause : Cause) : Failure := ⟨[], cause⟩

def within (activity : Activity) (f : Failure) : Failure :=
  { f with activities := activity :: f.activities }

def message (f : Failure) : String :=
  ": ".intercalate (f.activities.map Activity.message ++ f.cause.message?.toList)

/-- The wording of the outermost activity, or of the cause when there is none. -/
def headline (f : Failure) : String :=
  match f.activities with
  | a :: _ => a.message
  | [] => (f.cause.message?).getD ""

/-- The text with which the program breaks down instead of reporting the failure: a span past the
longest one cannot even be counted. -/
def breakdown? (f : Failure) : Option String :=
  match f.cause with
  | .spelling .pastLongest => some SpellingFault.pastLongest.message
  | .shape .spanPastLongest => some SpellingFault.pastLongest.message
  | _ => none

end Failure

def during (activity : Activity) (result : Except Failure α) : Except Failure α :=
  result.mapError (Failure.within activity)

/-- Check settings, relays before the inspector. -/
def Settings.validate (s : Settings) : Except Failure Unit :=
  match s.relaysFault? with
  | some fault => .error ⟨[.validatingRelays], .rule fault⟩
  | none =>
    match s.inspector.fault? with
    | some fault => .error ⟨[.validatingInspector], .rule fault⟩
    | none => .ok ()

end Wiretap
