import Mathlib.Data.List.TakeWhile
import Wiretap.Proofs.Console.Lines
import Wiretap.Proofs.Text.Utf8
/-! # The console's transcript

What the console writes, and how it ends, is a fold over the lines of its input: a prompt before each line,
the line's answer behind it. A line is answered from the statuses by the time its end has been read. Where
the input is split matters only for these; an output that accepts less gets the beginning.
-/

namespace Wiretap.Console

variable {bytes head more line : Bytes} {statuses : List Status} {input rest : List Input}

/-! ## The script -/

/-- The octets that come before the input fails. -/
def octets : List Input → Bytes
  | [] => []
  | .data bytes :: rest => bytes ++ octets rest
  | .publish _ _ :: rest => octets rest
  | .fault fault :: rest => if fault.isInterrupted then octets rest else []

/-- What the input fails with. -/
def inputFault? : List Input → Option IoFault
  | [] => none
  | .data _ :: rest | .publish _ _ :: rest => inputFault? rest
  | .fault fault :: rest => if fault.isInterrupted then inputFault? rest else some fault

/-- The statuses that are current when the octet with this number has been read. -/
def statusesAt (statuses : List Status) : List Input → Nat → List Status
  | [], _ => statuses
  | .data bytes :: rest, n =>
    if n < bytes.length then statuses else statusesAt statuses rest (n - bytes.length)
  | .publish relay status :: rest, n => statusesAt (statuses.set relay status) rest n
  | .fault _ :: rest, n => statusesAt statuses rest n

/-- The lines that are handled. One that has no end is lost when the input fails. -/
def dueLines (input : List Input) : List Bytes :=
  match inputFault? input with
  | none => lines (octets input)
  | some _ => (lines (octets input)).filter (·.contains newline)

/-- The text of a line, or the fault that it is none. -/
def textOf (line : Bytes) : Except IoFault String :=
  match Text.utf8Fault? line with
  | none => .ok (line.toText?.getD "")
  | some fault => .error (garbled fault)

/-- What is written about a line that does not end the console. -/
def answer (statuses : List Status) (text : String) : String :=
  let words := Text.trim text
  if words = "" then ""
  else if words = "status" then Status.report statuses
  else if words ∈ ["help", "?"] then helpText
  else s!"unknown command '{words}', type 'help'\n"

/-- A text, and behind it what else is written until the console ends. -/
def before (text : String) (script : Exit × Bytes) : Exit × Bytes :=
  (script.1, Bytes.ofText text ++ script.2)

/-- How the console ends, and what it writes until then to an output that accepts all. The statuses are
those by the octets of the lines that are left. -/
def transcript (fault? : Option IoFault) : (Nat → List Status) → List Bytes → Exit × Bytes
  | _, [] => before prompt (fault?.elim .endOfInput .failed, [])
  | now, line :: others =>
    before prompt
      (match textOf line with
      | .error fault => (.failed fault, [])
      | .ok text =>
        if Text.trim text ∈ ["quit", "exit"] then (.quit, [])
        else
          before (answer (now (line.idxOf newline)) text)
            (transcript fault? (fun n => now (line.length + n)) others))

theorem textOf_eq_ok_iff {text : String} : textOf line = .ok text ↔ Bytes.ofText text = line := by
  constructor
  · intro isText
    rw [textOf] at isText
    split at isText
    next fine =>
      obtain ⟨original, rfl⟩ := Text.utf8Fault?_eq_none_iff.mp fine
      cases isText
      rw [Bytes.toText?_ofText]
      rfl
    next => cases isText
  · rintro rfl
    rw [textOf, Text.utf8Fault?_eq_none_iff.mpr ⟨text, rfl⟩, Bytes.toText?_ofText]
    rfl

theorem parse_eq_quit_iff {text : String} :
    Command.parse text = .quit ↔ Text.trim text ∈ ["quit", "exit"] := by
  rw [Command.parse]
  split
  case h_7 _ _ quit exit _ _ _ => simpa using ⟨quit, exit⟩
  all_goals simp [*]

theorem response_parse (statuses : List Status) {text : String}
    (goes_on : Text.trim text ∉ ["quit", "exit"]) :
    response statuses (Command.parse text) = answer statuses text := by
  unfold Command.parse answer
  generalize Text.trim text = words at goes_on ⊢
  split
  case h_1 | h_4 | h_5 | h_6 => rfl
  case h_2 | h_3 => simp at goes_on
  case h_7 _ empty _ _ status help mark =>
    have neither : words ∉ ["help", "?"] := by simpa using ⟨help, mark⟩
    rw [if_neg empty, if_neg status, if_neg neither]
    rfl

/-! ## Reading -/

theorem statusesAt_data_append (statuses : List Status) (head more : Bytes) (rest : List Input) (n : Nat) :
    statusesAt statuses (.data (head ++ more) :: rest) (head.length + n) =
      statusesAt statuses (.data more :: rest) n := by
  simp only [statusesAt, List.length_append, Nat.add_lt_add_iff_left, Nat.add_sub_add_left]

theorem statusesAt_data_add (statuses : List Status) (bytes : Bytes) (rest : List Input) (n : Nat) :
    statusesAt statuses (.data bytes :: rest) (bytes.length + n) = statusesAt statuses rest n := by
  rw [statusesAt, if_neg (by omega), Nat.add_sub_cancel_left]

theorem bne_newline_of_fresh (fresh : newline ∉ bytes) : ∀ octet ∈ bytes, octet != newline :=
  fun _ member => bne_iff_ne.mpr fun same => fresh (same ▸ member)

theorem readLine_of_fresh (fresh : newline ∉ bytes) (line : Bytes) (statuses : List Status)
    (rest : List Input) :
    readLine line statuses (.data bytes :: rest) = readLine (line ++ bytes) statuses rest := by
  have others := bne_newline_of_fresh fresh
  rw [readLine, List.takeWhile_eq_self_iff.mpr others, List.dropWhile_eq_nil_iff.mpr others]

theorem readLine_of_newline (fresh : newline ∉ head) (more line : Bytes) (statuses : List Status)
    (rest : List Input) :
    readLine line statuses (.data (head ++ newline :: more) :: rest) =
      ⟨.ok (line ++ head ++ [newline]), statuses, .data more :: rest⟩ := by
  have others := bne_newline_of_fresh fresh
  rw [readLine, List.takeWhile_append_of_pos others, List.dropWhile_append_of_pos others]
  simp

/-- A line is read to its newline, or else to the end or the fault of the input. -/
theorem readLine_cases (line : Bytes) (statuses : List Status) (input : List Input) :
    (newline ∉ octets input ∧ (readLine line statuses input).result =
        (inputFault? input).elim (.ok (line ++ octets input)) .error ∧
      (inputFault? input = none → readLine line statuses input =
        ⟨.ok (line ++ octets input), statusesAt statuses input (octets input).length, []⟩)) ∨
      ∃ head more rest, newline ∉ head ∧ octets input = head ++ newline :: more ∧
        readLine line statuses input =
          ⟨.ok (line ++ head ++ [newline]), statusesAt statuses input head.length, rest⟩ ∧
        octets rest = more ∧ inputFault? rest = inputFault? input ∧
        ∀ n, statusesAt (statusesAt statuses input head.length) rest n =
          statusesAt statuses input (head.length + 1 + n) := by
  induction input generalizing line statuses with
  | nil => simp [octets, readLine, inputFault?, statusesAt]
  | cons item input ih =>
      cases item with
      | publish relay status => exact ih line (statuses.set relay status)
      | fault fault =>
          by_cases again : fault.isInterrupted
          · simp only [octets, inputFault?, readLine, statusesAt, if_pos again]
            exact ih line statuses
          · simp [octets, inputFault?, readLine, if_neg again]
      | data bytes =>
          obtain fresh | ⟨head, more, fresh, rfl⟩ := fresh_or_split bytes
          · rw [readLine_of_fresh fresh]
            obtain ⟨others, result, whole⟩ |
                ⟨head, more, rest, others, split, reads, left, faults, later⟩ :=
              ih (line ++ bytes) statuses
            · refine .inl ⟨?_, ?_, fun fine => ?_⟩
              · simp [octets, fresh, others]
              · rw [result]
                simp [octets, inputFault?]
              · rw [whole fine, octets, List.length_append, statusesAt_data_add, List.append_assoc]
            · refine .inr ⟨bytes ++ head, more, rest, by simp [fresh, others], ?_, ?_, left, faults,
                fun n => ?_⟩
              · simp [octets, split]
              · rw [reads, List.length_append, statusesAt_data_add, List.append_assoc line]
              · simp only [List.length_append, Nat.add_assoc, statusesAt_data_add] at later ⊢
                exact later n
          · have now :
                statusesAt statuses (.data (head ++ newline :: more) :: input) head.length = statuses :=
              if_pos (by simp)
            refine .inr ⟨head, more ++ octets input, .data more :: input, fresh, ?_, ?_, rfl, rfl,
              fun n => ?_⟩
            · simp [octets]
            · rw [readLine_of_newline fresh, now]
            · rw [now, List.append_cons, ← statusesAt_data_append statuses (head ++ [newline]),
                List.length_append, List.length_singleton]

/-! ## Writing -/

namespace Output

variable {room : Option Nat} {a b : Bytes}

/-- What is accepted of bytes when there is so much room. -/
def cut (room : Option Nat) (bytes : Bytes) : Bytes := room.elim bytes bytes.take

def Fits (room : Option Nat) (bytes : Bytes) : Prop := ∀ n ∈ room, bytes.length ≤ n

instance (room : Option Nat) (bytes : Bytes) : Decidable (Fits room bytes) :=
  inferInstanceAs (Decidable (∀ n ∈ room, bytes.length ≤ n))

def left (room : Option Nat) (bytes : Bytes) : Option Nat := room.map (· - bytes.length)

theorem cut_append (room : Option Nat) (a b : Bytes) :
    cut room (a ++ b) = cut room a ++ cut (left room a) b := by
  cases room with
  | none => rfl
  | some n => exact List.take_append

theorem fits_append : Fits room (a ++ b) ↔ Fits room a ∧ Fits (left room a) b := by
  cases room with
  | none => simp [Fits, left]
  | some n => simp [Fits, left]; omega

theorem cut_left_of_not_fits (beyond : ¬Fits room a) (b : Bytes) : cut (left room a) b = [] := by
  cases room with
  | none => simp [Fits] at beyond
  | some n => simp [Fits, cut, left] at beyond ⊢; omega

theorem write_eq (o : Output) (text : String) : ∃ pieces,
    o.write text =
        (⟨left o.room (Bytes.ofText text), pieces⟩, decide (Fits o.room (Bytes.ofText text))) ∧
      (⟨left o.room (Bytes.ofText text), pieces⟩ : Output).written =
        o.written ++ cut o.room (Bytes.ofText text) := by
  obtain ⟨room, pieces⟩ := o
  cases room with
  | none => exact ⟨Bytes.ofText text :: pieces, by simp [write, left, Fits], by simp [written, cut]⟩
  | some n =>
      exact ⟨(Bytes.ofText text).take n :: pieces, by simp [write, left, Fits], by simp [written, cut]⟩

/-- A run that leaves an output with what it accepts of a script, and that ends like the script if it has
accepted all. -/
structure Follows (o : Output) (script : Exit × Bytes) (run : Exit × Output) : Prop where
  written : run.2.written = o.written ++ cut o.room script.2
  ended : run.1 = if Fits o.room script.2 then script.1 else .failed closedOutput

theorem follows_of_end (o : Output) (exit : Exit) : o.Follows (exit, []) (exit, o) := by
  obtain ⟨room, pieces⟩ := o
  constructor
  · cases room <;> simp [cut]
  · simp [Fits]

/-- Write a text, and go on if all of it is accepted. -/
def andThen (o : Output) (text : String) (next : Output → Exit × Output) : Exit × Output :=
  if (o.write text).2 then next (o.write text).1 else (.failed closedOutput, (o.write text).1)

theorem Follows.andThen {o : Output} {text : String} {script : Exit × Bytes}
    {next : Output → Exit × Output} (goes_on : ∀ o : Output, o.Follows script (next o)) :
    o.Follows (before text script) (o.andThen text next) := by
  obtain ⟨pieces, writes, written⟩ := o.write_eq text
  rw [Output.andThen, writes]
  by_cases fits : Fits o.room (Bytes.ofText text)
  · have ends := goes_on ⟨left o.room (Bytes.ofText text), pieces⟩
    simp only [decide_eq_true fits, if_true]
    constructor
    · rw [ends.written, written, before, cut_append, List.append_assoc]
    · rw [ends.ended]
      simp only [before, fits_append, fits, true_and]
  · simp only [decide_eq_false fits, Bool.false_eq_true, if_false]
    constructor
    · rw [written, before, cut_append, cut_left_of_not_fits fits, List.append_nil]
    · simp only [before, fits_append, fits, false_and, if_false]

end Output

/-! ## Running -/

/-- Respond to a line, and go on if it does not end the console. -/
def respond (statuses : List Status) (line : Bytes) (next : Output → Exit × Output) (output : Output) :
    Exit × Output :=
  match textOf line with
  | .error fault => (.failed fault, output)
  | .ok text =>
    if Text.trim text ∈ ["quit", "exit"] then (.quit, output)
    else output.andThen (answer statuses text) next

theorem handle_then (statuses : List Status) (output : Output) (line : Bytes)
    (next : Output → Exit × Output) :
    (match handle statuses output line with
      | .ended exit output => (exit, output)
      | .goesOn output => next output) = respond statuses line next output := by
  rw [handle, respond, textOf]
  cases Text.utf8Fault? line with
  | some fault => rfl
  | none =>
      simp only [parse_eq_quit_iff]
      by_cases quits : Text.trim (line.toText?.getD "") ∈ ["quit", "exit"]
      · simp only [if_pos quits]
      · simp only [if_neg quits, response_parse statuses quits, Output.andThen]
        rcases output.write _ with ⟨output, _ | _⟩ <;> rfl

theorem runFor_succ (fuel : Nat) (statuses : List Status) (input : List Input) (output : Output) :
    runFor (fuel + 1) statuses input output = output.andThen prompt fun output =>
      let intake := readLine [] statuses input
      match intake.result with
      | .error fault => (.failed fault, output)
      | .ok [] => (.endOfInput, output)
      | .ok line => respond intake.statuses line (runFor fuel intake.statuses intake.input) output := by
  simp only [← handle_then]
  rw [runFor, Output.andThen]
  rcases output.write prompt with ⟨output, _ | _⟩ <;> rfl

theorem runFor_of_line {now : List Status} (reads : readLine [] statuses input = ⟨.ok line, now, rest⟩)
    (some_ : line ≠ []) (fuel : Nat) (output : Output) :
    runFor (fuel + 1) statuses input output =
      output.andThen prompt (respond now line (runFor fuel now rest)) := by
  obtain ⟨octet, line, rfl⟩ := List.exists_cons_of_ne_nil some_
  rw [runFor_succ, reads]

theorem dueLines_of_newline (fresh : newline ∉ head) (split : octets input = head ++ newline :: more)
    (left : octets rest = more) (faults : inputFault? rest = inputFault? input) :
    dueLines input = (head ++ [newline]) :: dueLines rest := by
  rw [dueLines, dueLines, faults, left, split, lines_of_newline fresh]
  cases inputFault? input with
  | none => rfl
  | some fault => rw [List.filter_cons_of_pos (by simp)]

theorem dueLines_of_fault {fault : IoFault} (fails : inputFault? input = some fault)
    (fresh : newline ∉ octets input) : dueLines input = [] := by
  simp only [dueLines, fails]
  by_cases some_ : octets input = []
  · rw [some_]
    rfl
  · rw [lines_of_fresh fresh some_]
    exact List.filter_cons_of_neg (by simpa using fresh)

theorem dueLines_of_end (fine : inputFault? input = none) (fresh : newline ∉ octets input)
    (some_ : octets input ≠ []) : dueLines input = [octets input] := by
  simp only [dueLines, fine]
  exact lines_of_fresh fresh some_

/-- What a line adds to a script, by the script of what comes behind. -/
theorem respond_follows {now : Nat → List Status} {fault? : Option IoFault} {others : List Bytes}
    {next : Output → Exit × Output} {n : Nat} (position : line.idxOf newline = n)
    (goes_on : ∀ output : Output,
      output.Follows (transcript fault? (fun n => now (line.length + n)) others) (next output))
    (output : Output) :
    output.Follows (transcript fault? now (line :: others))
      (output.andThen prompt (respond (now n) line next)) := by
  rw [transcript, position]
  refine Output.Follows.andThen fun output => ?_
  cases text? : textOf line with
  | error fault =>
      simp only [respond, text?]
      exact output.follows_of_end (.failed fault)
  | ok text =>
      by_cases quits : Text.trim text ∈ ["quit", "exit"]
      · simp only [respond, text?, if_pos quits]
        exact output.follows_of_end .quit
      · simp only [respond, text?, if_neg quits]
        exact Output.Follows.andThen goes_on

theorem runFor_follows {fuel : Nat} (enough : (octets input).length < fuel) (statuses : List Status)
    (output : Output) :
    output.Follows (transcript (inputFault? input) (statusesAt statuses input) (dueLines input))
      (runFor fuel statuses input output) := by
  induction fuel generalizing statuses input output with
  | zero => omega
  | succ fuel ih =>
      obtain ⟨fresh, result, whole⟩ | ⟨head, more, rest, fresh, split, reads, left, faults, later⟩ :=
        readLine_cases [] statuses input
      · cases fails : inputFault? input with
        | some fault =>
            rw [fails] at result
            simp only [runFor_succ, result, dueLines_of_fault fails fresh, Option.elim_some]
            exact Output.Follows.andThen fun output => output.follows_of_end (.failed fault)
        | none =>
            by_cases some_ : octets input = []
            · have nothing : dueLines input = [] := by simp only [dueLines, fails, some_, lines]
              simp only [runFor_succ, whole fails, List.nil_append, some_, nothing]
              exact Output.Follows.andThen fun output => output.follows_of_end .endOfInput
            · have last : (octets input).idxOf newline = (octets input).length :=
                List.idxOf_eq_length fresh
              rw [runFor_of_line (whole fails) some_, dueLines_of_end fails fresh some_, List.nil_append]
              refine respond_follows last (fun output => ?_) output
              have behind := List.length_pos_iff.mpr some_
              have atEnd : (octets []).length < fuel := show 0 < fuel by omega
              -- What is left is one more prompt.
              exact ih atEnd _ output
      · have shift : (fun n => statusesAt statuses input ((head ++ [newline]).length + n)) =
            statusesAt (statusesAt statuses input head.length) rest := by
          funext n
          rw [later, List.length_append, List.length_singleton]
        have position : (head ++ [newline]).idxOf newline = head.length := by
          simp [List.idxOf_append, fresh]
        rw [runFor_of_line reads (by simp), dueLines_of_newline fresh split left faults, List.nil_append]
        refine respond_follows position (fun output => ?_) output
        rw [shift, ← faults]
        refine ih ?_ _ _
        rw [split] at enough
        simp [left] at enough ⊢
        omega

theorem octets_length_le_size (input : List Input) : (octets input).length ≤ size input := by
  rw [size, ← Nat.zero_add (octets input).length]
  generalize 0 = n
  induction input generalizing n with
  | nil => exact Nat.le_refl n
  | cons item input ih =>
      cases item with
      | data bytes =>
          rw [octets, List.length_append, ← Nat.add_assoc]
          exact ih (n + bytes.length)
      | publish relay status => exact ih n
      | fault fault =>
          simp only [octets]
          split
          · exact ih n
          · exact Nat.le_trans (Nat.add_le_add_left (Nat.zero_le _) n) (ih n)

theorem run_follows (statuses : List Status) (input : List Input) (limit : Option Nat) :
    Output.Follows { room := limit }
      (transcript (inputFault? input) (statusesAt statuses input) (dueLines input))
      (run statuses input limit) :=
  runFor_follows (Nat.lt_succ_of_le (octets_length_le_size input)) statuses _

theorem transcript_of_reads (statuses : List Status) (reads : List Bytes) :
    transcript (inputFault? (reads.map .data)) (statusesAt statuses (reads.map .data))
      (dueLines (reads.map .data)) = transcript none (fun _ => statuses) (lines reads.flatten) := by
  have data : octets (reads.map .data) = reads.flatten ∧ inputFault? (reads.map .data) = none ∧
      statusesAt statuses (reads.map .data) = fun _ => statuses := by
    induction reads with
    | nil => exact ⟨rfl, rfl, rfl⟩
    | cons bytes reads ih =>
        obtain ⟨whole, fine, fixed⟩ := ih
        refine ⟨by simp [octets, whole], fine, funext fun n => ?_⟩
        simp only [List.map_cons, statusesAt, fixed, ite_self]
  obtain ⟨whole, fine, fixed⟩ := data
  rw [dueLines, whole, fine, fixed]

/-- The console writes the transcript of its lines and ends like it, on an output that accepts all. One
with a limit gets the beginning, and the console fails if that is not all. A line has a text exactly if it
is that text's UTF-8 form. As long as no status is published, the split into reads does not matter. -/
theorem run_as_transcribed (statuses : List Status) (input : List Input) (limit : Nat) :
    let script := transcript (inputFault? input) (statusesAt statuses input) (dueLines input)
    let unlimited := run statuses input none
    let limited := run statuses input (some limit)
    unlimited.1 = script.1 ∧ unlimited.2.written = script.2 ∧
      limited.2.written = script.2.take limit ∧
      limited.1 = (if limit < script.2.length then .failed closedOutput else script.1) ∧
      (∀ line text, textOf line = .ok text ↔ Bytes.ofText text = line) ∧
      ∀ (reads : List Bytes) (limit : Option Nat),
        let split := run statuses (reads.map .data) limit
        let whole := run statuses [.data reads.flatten] limit
        split.1 = whole.1 ∧ split.2.written = whole.2.written := by
  intro script unlimited limited
  obtain ⟨all, ended⟩ := run_follows statuses input none
  obtain ⟨part, cut_off⟩ := run_follows statuses input (some limit)
  refine ⟨?_, ?_, ?_, ?_, fun line text => textOf_eq_ok_iff, fun reads limit => ?_⟩
  · simpa [Output.Fits] using ended
  · simpa [Output.written, Output.cut] using all
  · simpa [Output.written, Output.cut] using part
  · simp only [Output.Fits, Option.mem_some, forall_eq', ← Nat.not_lt, ite_not] at cut_off
    exact cut_off
  · have apart := run_follows statuses (reads.map .data) limit
    have whole := run_follows statuses ([reads.flatten].map .data) limit
    rw [transcript_of_reads] at apart whole
    rw [List.flatten_singleton] at whole
    exact ⟨apart.ended.trans whole.ended.symm, apart.written.trans whole.written.symm⟩

example :
    let reads := [Bytes.ofText "he", Bytes.ofText "lp\nexit\nhelp\n"]
    (run [] (reads.map .data) (some 13)).2.written = Bytes.ofText "$ commands:\n " ∧
      (run [] (reads.map .data) none).1 = .quit := by
  decide +kernel

end Wiretap.Console
