import Wiretap.Settings.Basic
import Wiretap.IoFault
import Wiretap.Text.Quoted
import Wiretap.Traffic
/-! # Inspectors

An inspector looks at every chunk and either accepts it, reports a fault, or panics. Besides the
built-in ones there are custom ones, whose reaction depends on the number of the call and on the
chunk; it may include installing another inspector and stopping the session.
-/

namespace Wiretap

/-- Why an inspection failed. -/
inductive InspectionFault where
  | message (text : String)
  | panicked (text : String)
  | io (fault : IoFault)
  | unserializable (text : String)
  deriving Repr, DecidableEq, BEq

def InspectionFault.wording : InspectionFault → String
  | .message text => text
  | .panicked text => s!"inspector panicked: {text}"
  | .io fault => fault.message
  | .unserializable text => text

/-- What an inspection came to. -/
inductive Verdict where
  | accepted
  | failed (fault : InspectionFault)
  deriving Repr, DecidableEq, BEq

def Verdict.fault? : Verdict → Option InspectionFault
  | .accepted => none
  | .failed fault => some fault

/-- What a panic carries, as far as it is looked at. -/
inductive Payload where
  | text (text : String)
  | other
  deriving Repr, DecidableEq, BEq

def Payload.message : Payload → String
  | .text t => t
  | .other => "unknown panic payload"

/-- How a call of an inspector ended. -/
inductive Outcome where
  | returned (verdict : Verdict)
  | panicked (payload : Payload)
  deriving Repr, DecidableEq, BEq

/-- The verdict of a call: a panic counts as a fault. -/
def Outcome.verdict : Outcome → Verdict
  | .returned verdict => verdict
  | .panicked payload => .failed (.panicked payload.message)

/-- An inspector that is to be installed: one that is ready, or one that has yet to be built. -/
inductive Plan (ι : Type) where
  | ready (inspector : ι)
  | chosen (choice : InspectorChoice)

/-- How a custom inspector reacts to a chunk. -/
structure Reaction (ι : Type) where
  outcome : Outcome := .returned .accepted
  installs : Option (Plan ι) := none
  stopsSession : Bool := false

/-- An inspector. -/
inductive Inspector where
  | noop
  /-- Logs a preview of every chunk. -/
  | preview (bytes : Nat)
  /-- Appends a record of every chunk to a file. -/
  | capture (path : String)
  /-- Notes every chunk under a label and reacts to it by the number of the call. -/
  | custom (name label : String) (react : Nat → Event → Reaction Inspector)

instance : Inhabited Inspector := ⟨.noop⟩
instance : Inhabited (Plan ι) := ⟨.chosen .noop⟩
instance : Inhabited (Reaction ι) := ⟨{}⟩

namespace Inspector

def name : Inspector → String
  | .noop => "noop"
  | .preview _ => "log"
  | .capture _ => "capture"
  | .custom name _ _ => name

def unnamed : String := "custom"

def function : String := "fn"

end Inspector

/-- The value of a choice in full, as the journal shows it. -/
def InspectorChoice.summary : InspectorChoice → String
  | .noop => "Noop"
  | .log n => "Log \x7b preview_bytes: " ++ toString n ++ " \x7d"
  | .capture path => "Capture \x7b path: " ++ Text.quotedPath path ++ " \x7d"

end Wiretap
