import Wiretap.Errno
/-! # Input and output faults

A failed operation reports a system error number, or a kind with or without a message of its own.
-/

namespace Wiretap

/-- The kinds of input and output faults. -/
inductive IoKind where
  | notFound | permissionDenied | connectionRefused | connectionReset | connectionAborted
  | notConnected | addressInUse | addressNotAvailable | brokenPipe | alreadyExists | wouldBlock
  | invalidInput | invalidData | timedOut | writeZero | interrupted | unsupported
  | unexpectedEnd | outOfMemory | other
  deriving Repr, DecidableEq, BEq

/-- The description of a kind. -/
def IoKind.message : IoKind → String
  | .notFound => "entity not found"
  | .permissionDenied => "permission denied"
  | .connectionRefused => "connection refused"
  | .connectionReset => "connection reset"
  | .connectionAborted => "connection aborted"
  | .notConnected => "not connected"
  | .addressInUse => "address in use"
  | .addressNotAvailable => "address not available"
  | .brokenPipe => "broken pipe"
  | .alreadyExists => "entity already exists"
  | .wouldBlock => "operation would block"
  | .invalidInput => "invalid input parameter"
  | .invalidData => "invalid data"
  | .timedOut => "timed out"
  | .writeZero => "write zero"
  | .interrupted => "operation interrupted"
  | .unsupported => "unsupported"
  | .unexpectedEnd => "unexpected end of file"
  | .outOfMemory => "out of memory"
  | .other => "other error"

/-- The kind of a name. -/
def IoKind.ofName? : String → Option IoKind
  | "not_found" => some .notFound
  | "permission_denied" => some .permissionDenied
  | "connection_refused" => some .connectionRefused
  | "connection_reset" => some .connectionReset
  | "connection_aborted" => some .connectionAborted
  | "not_connected" => some .notConnected
  | "addr_in_use" => some .addressInUse
  | "addr_not_available" => some .addressNotAvailable
  | "broken_pipe" => some .brokenPipe
  | "already_exists" => some .alreadyExists
  | "would_block" => some .wouldBlock
  | "invalid_input" => some .invalidInput
  | "invalid_data" => some .invalidData
  | "timed_out" => some .timedOut
  | "write_zero" => some .writeZero
  | "interrupted" => some .interrupted
  | "unsupported" => some .unsupported
  | "unexpected_eof" => some .unexpectedEnd
  | "out_of_memory" => some .outOfMemory
  | "other" => some .other
  | _ => none

/-- A failed input or output operation. -/
inductive IoFault where
  /-- The system gave an error number. -/
  | system (number : Nat)
  /-- A fault that is known by its kind only. -/
  | kind (kind : IoKind)
  /-- A fault with a message of its own. -/
  | custom (kind : IoKind) (text : String)
  deriving Repr, DecidableEq, BEq

namespace IoFault

def message : IoFault → String
  | .system number => s!"{Errno.message number} (os error {number})"
  | .kind k => k.message
  | .custom _ text => text

/-- Whether the operation was merely interrupted and is to be tried again. -/
def isInterrupted : IoFault → Bool
  | .system number => number == 4
  | .kind k | .custom k _ => k == .interrupted

def notUtf8 : IoFault := .custom .invalidData "stream did not contain valid UTF-8"

def wroteNothing : IoFault := .kind .writeZero

def endedEarly : IoFault := .custom .unexpectedEnd "early eof"

def nulInName : IoFault := .custom .invalidInput "file name contained an unexpected NUL byte"

/-- A host name that cannot be resolved. -/
def unknownHost : IoFault :=
  .custom .other "failed to lookup address information: Name or service not known"

end IoFault

end Wiretap
