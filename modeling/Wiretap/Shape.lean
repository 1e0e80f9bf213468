import Wiretap.Number.Double
import Wiretap.Text.Quoted
import Wiretap.Time.Spelling
/-! # Data that does not have the expected shape

What was found, what was wanted instead, and how that is put into words. Documents in TOML and
records in JSON share these faults.
-/

namespace Wiretap

/-- What was found in the data. -/
inductive Found where
  | string (text : String)
  | integer (value : Int)
  | float (value : FloatValue)
  /-- A floating point number that shows with an exponent when it is far from one. -/
  | scaledFloat (negative : Bool) (magnitude : Double)
  | boolean (value : Bool)
  | null
  | sequence
  | map
  deriving Repr, DecidableEq, BEq

/-- How a finding is named. -/
def Found.message : Found → String
  | .string text => s!"string {Text.quoted text}"
  | .integer value => "integer `" ++ toString value ++ "`"
  | .float value => "floating point `" ++ value.message ++ "`"
  | .scaledFloat negative magnitude =>
    "floating point `" ++ (if negative then "-" else "") ++ magnitude.scientific ++ "`"
  | .boolean value => "boolean `" ++ toString value ++ "`"
  | .null => "null"
  | .sequence => "sequence"
  | .map => "map"

/-- Why data does not have the expected shape. -/
inductive ShapeFault where
  | wrongType (found : Found) (expected : String)
  | wrongValue (found : Found) (expected : String)
  | missingField (name : String)
  | duplicateField (name : String)
  | unknownVariant (name : String) (known : List String)
  | wrongLength (length : Nat) (expected : String)
  | badIpAddress
  | badSocketAddress
  /-- A span of time is too long in a way that no reader of data can report. -/
  | spanPastLongest
  deriving Repr, DecidableEq, BEq

def tick (name : String) : String := "`" ++ name ++ "`"

/-- The list of known variants: two are joined by "or", more are listed. -/
def oneOf : List String → String
  | [a, b] => s!"expected {tick a} or {tick b}"
  | names => "expected one of " ++ ", ".intercalate (names.map tick)

/-- The wording of a shape fault. -/
def ShapeFault.message : ShapeFault → String
  | .wrongType found expected => s!"invalid type: {found.message}, expected {expected}"
  | .wrongValue found expected => s!"invalid value: {found.message}, expected {expected}"
  | .missingField name => s!"missing field {tick name}"
  | .duplicateField name => s!"duplicate field {tick name}"
  | .unknownVariant name known => s!"unknown variant {tick name}, {oneOf known}"
  | .wrongLength length expected => s!"invalid length {length}, expected {expected}"
  | .badIpAddress => "invalid IP address syntax"
  | .badSocketAddress => "invalid socket address syntax"
  | .spanPastLongest => SpellingFault.pastLongest.message

end Wiretap
