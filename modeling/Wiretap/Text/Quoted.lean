import Wiretap.Text.Printable
/-! # Quoted text

A text between double quotes, with backslashes before quotes and backslashes, short escapes for
common controls, and code points in braces for whatever else does not show as itself.
-/

namespace Wiretap.Text

def codePointEscape (c : Char) : List Char :=
  '\\' :: 'u' :: '\x7b' :: Nat.toDigits 16 c.toNat ++ ['\x7d']

def quotedChar (c : Char) : List Char :=
  if c == '"' || c == '\\' then ['\\', c]
  else if c == '\n' then ['\\', 'n']
  else if c == '\r' then ['\\', 'r']
  else if c == '\t' then ['\\', 't']
  else if c.toNat == 0 then ['\\', '0']
  else if isPrintable c then [c]
  else codePointEscape c

def quoted (text : String) : String :=
  String.ofList ('"' :: text.toList.flatMap quotedChar ++ ['"'])

/-- A path between double quotes: as a text, with apostrophes escaped too. -/
def quotedPath (path : String) : String :=
  let char (c : Char) : List Char := if c == '\'' then ['\\', '\''] else quotedChar c
  String.ofList ('"' :: path.toList.flatMap char ++ ['"'])

end Wiretap.Text
