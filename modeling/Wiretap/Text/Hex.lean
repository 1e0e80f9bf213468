import Wiretap.Bytes
/-! # Hexadecimal text of bytes

Two lower-case digits per octet, and the preview of a chunk: its hexadecimal digits in pairs, then
its printable ASCII characters between bars.
-/

namespace Wiretap.Text

def hexDigit (n : Nat) : Char :=
  if n < 10 then Char.ofNat ('0'.toNat + n) else Char.ofNat ('a'.toNat + (n - 10))

def hexByte (b : UInt8) : List Char := [hexDigit (b.toNat / 16), hexDigit (b.toNat % 16)]

/-- The digits of a byte string, without separators. -/
def hex (bytes : Bytes) : String := String.ofList (bytes.flatMap hexByte)

/-- How an octet shows in the text part of a preview: as itself where it is printable ASCII. -/
def previewChar (b : UInt8) : Char :=
  if 0x20 ≤ b && b ≤ 0x7E then Char.ofNat b.toNat else '.'

def hexPairs (bytes : Bytes) : List Char := [' '].intercalate (bytes.map hexByte)

/-- The preview of a byte string: `70 69 |pi|`. -/
def hexPreview (bytes : Bytes) : String :=
  String.ofList (hexPairs bytes ++ ' ' :: '|' :: bytes.map previewChar ++ ['|'])

end Wiretap.Text
