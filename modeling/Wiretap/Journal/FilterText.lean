import Wiretap.Bytes
import Wiretap.Journal.Filter
import Wiretap.Text.Alphanumeric
import Wiretap.Text.Blank
import Wiretap.Text.Numeral
import Wiretap.Text.Pattern
/-! # The notation of filters

A filter is written as rules with commas in between. A rule is a level, or the beginning of a part's
name, with brackets and a level behind it or without. In the brackets stands the name of an
undertaking, and a field in braces, of which the value may be given.

Blanks around a rule are passed over when its characters are looked at. The places of its pieces are
counted without the blanks in front, but the pieces are taken from the text with them.
-/

namespace Wiretap

/-- Why a rule is refused. -/
inductive FilterFault where
  | malformed
  | unknownLevel
  | pattern (fault : Text.PatternFault)
  /-- A piece begins or ends inside of a character, at which the program breaks down. -/
  | cutCharacter
  deriving Repr, DecidableEq, BEq

def FilterFault.message : FilterFault → String
  | .malformed => "invalid filter directive"
  | .unknownLevel =>
    "error parsing level filter: expected one of \"off\", \"error\", \"warn\", " ++
      "\"info\", \"debug\", \"trace\", or a number 0-5"
  | .pattern fault => s!"invalid field filter: {fault.message}"
  | .cutCharacter => "a filter is cut inside of a character"

/-- The threshold of a name or a number. -/
def Threshold.ofText? (text : String) : Option Threshold :=
  match Text.Numeral.readUInt64 text with
  | .ok 0 => some none
  | .ok 1 => some (some .error)
  | .ok 2 => some (some .warn)
  | .ok 3 => some (some .info)
  | .ok 4 => some (some .debug)
  | .ok 5 => some (some .trace)
  | .ok _ => none
  | .error _ =>
    let is (name : String) : Bool := Text.sameIgnoringAsciiCase text name
    if is "error" then some (some .error)
    else if is "warn" then some (some .warn)
    else if is "info" then some (some .info)
    else if is "debug" then some (some .debug)
    else if is "trace" then some (some .trace)
    else if is "off" then some none
    else none

namespace FieldTest

/-- Whether digits with a point or an exponent, or a name, write a floating point number. -/
def isFloat (text : String) : Bool :=
  let cs := text.toList
  let cs := if cs.head? == some '+' || cs.head? == some '-' then cs.tail else cs
  let behind (cs : List Char) : List Char := cs.dropWhile Char.isDigit
  let isNumber (cs : List Char) : Bool := !cs.isEmpty && cs.all Char.isDigit
  let isExponent (cs : List Char) : Bool :=
    match cs with
    | [] => true
    | c :: rest =>
      (c == 'e' || c == 'E') &&
        isNumber (if rest.head? == some '+' || rest.head? == some '-' then rest.tail else rest)
  if ["inf", "infinity", "nan"].any (Text.sameIgnoringAsciiCase (String.ofList cs)) then true
  else
    match behind cs with
    | '.' :: rest =>
      (cs.head? != some '.' || rest.head?.any Char.isDigit) && isExponent (behind rest)
    | rest => cs.head?.any Char.isDigit && isExponent rest

/-- The test that a text writes. What is no value of its own is a pattern. -/
def ofText (text : String) : Except FilterFault FieldTest :=
  if text == "true" then .ok (.flag true)
  else if text == "false" then .ok (.flag false)
  else
    match Text.Numeral.readUInt64 text with
    | .ok n => .ok (.number n)
    | .error _ =>
      if isFloat text then .ok (.pattern text)
      else
        match Text.Pattern.fault? text with
        | some fault => .error (.pattern fault)
        | none => .ok (.pattern text)

end FieldTest

/-- The condition that a text writes: a name, and a value behind an equals sign. -/
def FieldCondition.ofText (text : String) : Except FilterFault FieldCondition :=
  match text.splitOn "=" with
  | name :: value :: _ => do return ⟨name, some (← FieldTest.ofText value)⟩
  | _ => .ok ⟨text, none⟩

/-! ## Reading a rule -/

/-- Where reading is: what the next character belongs to, and where that began. -/
inductive RuleStage where
  | start
  /-- The name of a part, or a level. -/
  | name (start : Nat)
  | undertaking (start : Nat)
  | condition (start : Nat)
  | conditionEnd
  | bracketEnd
  | level (start : Nat)
  deriving Repr, DecidableEq, BEq

/-- What has been read of a rule. -/
structure RuleProgress where
  stage : RuleStage
  rule : FilterRule

namespace FilterRule

def mayBegin (c : Char) : Bool := c == '-' || c == ':' || c == '_' || Text.isAlphanumeric c

/-- Whether a character begins at a place, or the text ends there. -/
def isBoundary (text : Bytes) (place : Nat) : Bool :=
  match text.drop place with
  | [] => place == text.length
  | octet :: _ => octet < 0x80 || 0xC0 ≤ octet

def cut (text : Bytes) (start stop : Nat) : Except FilterFault String :=
  if isBoundary text start && isBoundary text stop then
    match Bytes.toText? ((text.drop start).take (stop - start)) with
    | some piece => .ok piece
    | none => .error .cutCharacter
  else .error .cutCharacter

/-- The threshold that a text in the place of a level writes: all when it is empty. -/
def thresholdOf (text : String) : Except FilterFault Threshold :=
  if text.isEmpty then .ok (some .trace)
  else
    match Threshold.ofText? text with
    | some threshold => .ok threshold
    | none => .error .unknownLevel

/-- Read the character at a place. -/
def read (text : Bytes) (p : RuleProgress) (place : Nat) (c : Char) :
    Except FilterFault RuleProgress := do
  let goTo (stage : RuleStage) : Except FilterFault RuleProgress := return { p with stage }
  match p.stage with
  | .start =>
    if c == '[' then goTo (.undertaking (place + 1))
    else if mayBegin c then goTo (.name place)
    else throw .malformed
  | .name start =>
    if c == '=' || c == '[' then
      let rule := { p.rule with origin := some (← cut text start place) }
      return ⟨if c == '=' then .level (place + 1) else .undertaking (place + 1), rule⟩
    else return p
  | .undertaking start =>
    if c == ']' then
      return ⟨.bracketEnd, { p.rule with undertaking := some (← cut text start place) }⟩
    else if c == '\x7b' then
      let name ← cut text start place
      let undertaking := if name.isEmpty then none else some name
      return ⟨.condition (place + 1), { p.rule with undertaking }⟩
    else return p
  | .condition start =>
    if c == '\x7d' then
      let piece ← cut text start place
      if piece.isEmpty then throw .malformed
      return ⟨.conditionEnd, { p.rule with condition := some (← FieldCondition.ofText piece) }⟩
    else return p
  | .conditionEnd => if c == ']' then goTo .bracketEnd else throw .malformed
  | .bracketEnd => if c == '=' then goTo (.level (place + 1)) else throw .malformed
  | .level _ => return p

/-- The rule that has been read at the end of a text. -/
def finish (text : Bytes) (p : RuleProgress) : Except FilterFault FilterRule := do
  match p.stage with
  | .name start =>
    let name ← cut text start text.length
    match Threshold.ofText? name with
    | some threshold => return { p.rule with threshold }
    | none => return { p.rule with origin := some name }
  | .level start =>
    return { p.rule with threshold := ← thresholdOf (← cut text start text.length) }
  | .bracketEnd => return p.rule
  | _ => throw .malformed

def ofText (text : String) : Except FilterFault FilterRule := do
  let bytes := Bytes.ofText text
  let step (r : RuleProgress × Nat) (c : Char) : Except FilterFault (RuleProgress × Nat) := do
    return (← read bytes r.1 r.2 c, r.2 + c.utf8Size)
  let (p, _) ← (Text.trim text).toList.foldlM step (⟨.start, {}⟩, 0)
  finish bytes p

end FilterRule

/-! ## Reading a filter -/

/-- What reading a filter came to. -/
structure FilterReading where
  filter : JournalFilter
  /-- The rules that were refused, and why. -/
  refused : List (String × FilterFault) := []
  /-- Whether reading broke down. -/
  isBroken : Bool := false

namespace JournalFilter

def parts (text : String) : List String := (text.splitOn ",").filter (!·.isEmpty)

/-- The filter that a text writes, if no rule of it is refused. -/
def ofText (text : String) : Except FilterFault JournalFilter := do
  return ⟨← (parts text).mapM FilterRule.ofText⟩

/-- Add a rule that may be refused to what has been read. -/
def readRule (r : FilterReading) (part : String) : FilterReading :=
  if r.isBroken then r
  else
    match FilterRule.ofText part with
    | .ok rule => { r with filter := ⟨r.filter.rules ++ [rule]⟩ }
    | .error .cutCharacter => { r with isBroken := true }
    | .error fault => { r with refused := r.refused ++ [(part, fault)] }

/-- The filter of a text's rules without the refused ones. -/
def ofTextLeniently (text : String) : FilterReading :=
  (parts text).foldl readRule { filter := ⟨[]⟩ }

end JournalFilter

end Wiretap
