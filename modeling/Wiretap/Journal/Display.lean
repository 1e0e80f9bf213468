import Wiretap.Journal.Filter
import Wiretap.Text.Quoted
/-! # Showing the journal

An entry is shown on a line of its own: its level, what it is made in the middle of, its message, and
its fields. Characters that could steer a terminal are escaped in messages.
-/

namespace Wiretap

def FieldValue.toText : FieldValue → String
  | .text value => value
  | .quoted value => Text.quoted value
  | .number value => toString value
  | .flag value => toString value

def fieldText (field : String × FieldValue) : String := s!"{field.1}={field.2.toText}"

def Undertaking.toText (u : Undertaking) : String :=
  u.name ++ "\x7b" ++ " ".intercalate (u.fields.map fieldText) ++ "\x7d: "

namespace Entry

def messageChar (c : Char) : List Char :=
  let n := c.toNat
  if [0x07, 0x08, 0x0C, 0x1B, 0x7F].contains n then
    ['\\', 'x'] ++ (if n < 16 then ['0'] else []) ++ Nat.toDigits 16 n
  else if 0x80 ≤ n && n ≤ 0x9F then Text.codePointEscape c
  else [c]

def shownMessage (e : Entry) : String := String.ofList (e.message.toList.flatMap messageChar)

def toText (e : Entry) (f : JournalFilter) : String :=
  let before := (e.amid.filter f.showsUndertaking).elim "" Undertaking.toText
  let fields := String.join (e.fields.map fun field => " " ++ fieldText field)
  s!"{e.level.name} {before}{e.shownMessage}{fields}\n"

end Entry

def JournalFilter.display (f : JournalFilter) (j : Journal) : String :=
  String.join ((j.filter f.shows).map (·.toText f))

end Wiretap
