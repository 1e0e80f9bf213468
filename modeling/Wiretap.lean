import Wiretap.Capture.Direction
import Wiretap.CommandLine.Program
import Wiretap.Lane.Script
import Wiretap.Main
import Wiretap.Supervise.Rehearsal
import Wiretap.Proofs.Lane.Inspection
import Wiretap.Proofs.Lane.Independence
import Wiretap.Proofs.Session.Ending
import Wiretap.Proofs.Supervise.Abandoning
import Wiretap.Proofs.Supervise.Accounting
import Wiretap.Proofs.Supervise.EndToEnd
import Wiretap.Proofs.Supervise.Reckoning
import Wiretap.Proofs.Watch.Service
import Wiretap.Proofs.CommandLine.Loading
import Wiretap.Proofs.Shutdown.Curfew
import Wiretap.Proofs.Watch.Reloading
import Wiretap.Proofs.Watch.Publishing
import Wiretap.Proofs.Watch.Following
import Wiretap.Proofs.Inspect.Swapping
import Wiretap.Proofs.Lane.Leaving
import Wiretap.Proofs.Supervise.Departing
import Wiretap.Proofs.Watch.Overlapping
import Wiretap.Proofs.Watch.Launch
import Wiretap.Proofs.Settings.Validity
import Wiretap.Proofs.Settings.SelfLoop
import Wiretap.Proofs.Settings.Overriding
import Wiretap.Proofs.Lane.Convoy
import Wiretap.Proofs.Settings.Choosing
import Wiretap.Proofs.Capture.Files
import Wiretap.Proofs.Console.Transcript
import Wiretap.Proofs.Counters.Answering
import Wiretap.Proofs.Inspect.Preview
import Wiretap.Proofs.Relay.Fallback
import Wiretap.Proofs.Lane.Buffering
import Wiretap.Proofs.Counters.Exposing
