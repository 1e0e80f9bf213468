import Wiretap.CommandLine.Operation
import Wiretap.Supervise.Run
/-! # The program

From its arguments to its end: a program that starts, reads its console to the end of the input, and
then may get a signal.
-/

namespace Wiretap

/-- What happens to a program while it runs. -/
structure Visit where
  /-- What comes on the console, which then ends. -/
  input : Bytes
  /-- The signal that the process gets after that. -/
  signal : Option Signal

namespace Program

/-- A host where nobody listens. -/
def quietHost : Network := { names := [("localhost", [.loopbackV4])] }

/-- What the journal says of a relay on a quiet host until it rests. -/
def attemptJournal (relay : Relay) (scene : Scene) : Journal :=
  (Run.ofRelay relay { scene with network := quietHost }).start.settle.scene.station.journal

/-- Run a program on a quiet host until its end, if there is one. -/
def Setup.finish (p : Setup) (v : Visit) : Conclusion :=
  let service := (quietHost.listen p.settings.metrics.bindAddress).1.map fun _ => ()
  let o := Operation.start p toString service
  let o := o.report (p.settings.relays.flatMap (attemptJournal · o.scene))
  let o := (Console.lines v.input ++ [[]]).foldl (fun (o : Operation) line => o.typed line) o
  let o := v.signal.elim o o.signalled
  ⟨if o.isOver then some 0 else none, p.output ++ o.output, p.errors⟩

/-- Start the program and run it until its end, if there is one. -/
def run (i : Invocation) (v : Visit) : Conclusion :=
  match start i with
  | .ended conclusion => conclusion
  | .runs setup => setup.finish v

end Program

end Wiretap
