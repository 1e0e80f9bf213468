import Wiretap.IoFault
import Wiretap.Supervise.Status
import Wiretap.Text.Blank
import Wiretap.Text.Utf8
/-! # The console

A prompt is written before each line of input, and the line's response behind it. The console ends
when a line says so, when the input ends, or when the input or the output fails.
-/

namespace Wiretap

/-- What a line asks for. -/
inductive Command where
  | quit
  | status
  | help
  | empty
  | unknown (text : String)
  deriving Repr, DecidableEq, BEq

def Command.parse (line : String) : Command :=
  match Text.trim line with
  | "" => .empty
  | "quit" | "exit" => .quit
  | "status" => .status
  | "help" | "?" => .help
  | other => .unknown other

namespace Console

def prompt : String := "$ "

def helpText : String :=
  "commands:\n  status  show every relay\n  help    show this message\n  quit    exit immediately\n"

def response (statuses : List Status) : Command → String
  | .quit | .empty => ""
  | .status => Status.report statuses
  | .help => helpText
  | .unknown text => s!"unknown command '{text}', type 'help'\n"

/-- What comes on the console's input, in order. -/
inductive Input where
  | data (bytes : Bytes)
  /-- A relay publishes a status before the next data. -/
  | publish (relay : Nat) (status : Status)
  | fault (fault : IoFault)
  deriving Repr, DecidableEq, BEq

/-- Why the console ended. -/
inductive Exit where
  | quit
  | endOfInput
  | failed (fault : IoFault)
  deriving Repr, DecidableEq, BEq

def newline : UInt8 := 10

/-- The lines of an input, each with its end, which the last one may lack. -/
def lines : Bytes → List Bytes
  | [] => []
  | octet :: rest =>
    if octet = newline then [octet] :: lines rest
    else
      match lines rest with
      | [] => [[octet]]
      | line :: others => (octet :: line) :: others

/-- What reading a line came to: its bytes with their end, nothing at the end of the input, or a
fault; the statuses by then, and the input behind. -/
structure Intake where
  result : Except IoFault Bytes
  statuses : List Status
  input : List Input

/-- Read a line whose beginning has been read. A read that is merely interrupted is tried again. -/
def readLine (line : Bytes) (statuses : List Status) : List Input → Intake
  | [] => ⟨.ok line, statuses, []⟩
  | .data bytes :: rest =>
    let head := bytes.takeWhile (· != newline)
    match bytes.dropWhile (· != newline) with
    | [] => readLine (line ++ head) statuses rest
    | _ :: more => ⟨.ok (line ++ head ++ [newline]), statuses, .data more :: rest⟩
  | .publish relay status :: rest => readLine line (statuses.set relay status) rest
  | .fault fault :: rest =>
    if fault.isInterrupted then readLine line statuses rest else ⟨.error fault, statuses, rest⟩

/-- The output: how much it still accepts, if that is limited, and the pieces that it has accepted,
the last one first. -/
structure Output where
  room : Option Nat := none
  pieces : List Bytes := []
  deriving Repr, DecidableEq, BEq

namespace Output

def written (o : Output) : Bytes := o.pieces.reverse.flatten

/-- Write a text as far as the output accepts it; `false` when it does not accept all. -/
def write (o : Output) (text : String) : Output × Bool :=
  let bytes := Bytes.ofText text
  match o.room with
  | none => ({ o with pieces := bytes :: o.pieces }, true)
  | some n => (⟨some (n - bytes.length), bytes.take n :: o.pieces⟩, bytes.length ≤ n)

end Output

def closedOutput : IoFault := .kind .brokenPipe

def garbled (fault : Text.Utf8Fault) : IoFault := .custom .invalidData fault.message

/-- What handling a line came to: the console's end, or its output from then on. -/
inductive Handled where
  | ended (exit : Exit) (output : Output)
  | goesOn (output : Output)

/-- Handle a line that was read. -/
def handle (statuses : List Status) (output : Output) (line : Bytes) : Handled :=
  match Text.utf8Fault? line with
  | some fault => .ended (.failed (garbled fault)) output
  | none =>
    let command := Command.parse (line.toText?.getD "")
    if command = .quit then .ended .quit output
    else
      match output.write (response statuses command) with
      | (output, true) => .goesOn output
      | (output, false) => .ended (.failed closedOutput) output

/-- Run for at most so many lines. -/
def runFor : Nat → List Status → List Input → Output → Exit × Output
  | 0, _, _, output => (.endOfInput, output)
  | n + 1, statuses, input, output =>
    match output.write prompt with
    | (output, false) => (.failed closedOutput, output)
    | (output, true) =>
      let intake := readLine [] statuses input
      match intake.result with
      | .error fault => (.failed fault, output)
      | .ok [] => (.endOfInput, output)
      | .ok line =>
        match handle intake.statuses output line with
        | .ended exit output => (exit, output)
        | .goesOn output => runFor n intake.statuses intake.input output

def size (input : List Input) : Nat :=
  input.foldl (fun n i =>
    match i with
    | .data bytes => n + bytes.length
    | _ => n) 0

/-- Run the console to its end. Every line takes an octet, so there are not more lines than octets. -/
def run (statuses : List Status) (input : List Input) (limit : Option Nat) : Exit × Output :=
  runFor (size input + 1) statuses input { room := limit }

end Console

end Wiretap
