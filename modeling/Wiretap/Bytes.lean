/-! # Byte strings

What travels through the relay, and how it corresponds to text.
-/

namespace Wiretap

abbrev Bytes := List UInt8

namespace Bytes

def ofText (text : String) : Bytes := text.toUTF8.data.toList

/-- The text that a byte string encodes, when it is well-formed UTF-8. -/
def toText? (bytes : Bytes) : Option String := String.fromUTF8? ⟨bytes.toArray⟩

/-- The first octets, as many as are asked for. They have to be there. -/
def first (bytes : Bytes) (count : Nat) (_ : count ≤ bytes.length) : Bytes := bytes.take count

def lengthOf (text : String) : Nat := text.utf8ByteSize

end Bytes

end Wiretap
