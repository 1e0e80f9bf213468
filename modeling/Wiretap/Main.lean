import Wiretap.Live.Office
/-! # The command line

The program as it is started by its name. When a signal ends it, it is gone once the line that the
console waits for has come.
-/

open Wiretap

/-- Why the capture file of a program cannot be opened, if it cannot. -/
def captureFailure? (p : Program.Setup) : IO (Option Failure) := do
  match p.inspector with
  | .capture path =>
    try
      Live.append path []
      return none
    catch e => return some ⟨[.buildingInspector, .openingCapture path], .io (Live.fault e)⟩
  | _ => return none

/-- Run a program whose relays are to run, and tell its exit code. -/
def runSetup (p : Program.Setup) : IO UInt32 := do
  IO.print p.output
  IO.eprint p.errors
  match ← captureFailure? p with
  | some failure =>
    IO.eprint (Program.failureReport failure)
    return 1
  | none =>
    Live.runToEnd p
    return 0

/-- Start the program and run it to its end. -/
def main (arguments : List String) : IO UInt32 := do
  let environment ← Live.environment
  let disk ← Live.startDisk arguments environment
  match Program.start ⟨arguments, environment, disk⟩ with
  | .ended conclusion =>
    IO.print conclusion.output
    IO.eprint conclusion.errors
    return (conclusion.exitCode.getD 0).toUInt32
  | .runs setup => runSetup setup
