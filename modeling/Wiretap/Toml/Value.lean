import Wiretap.Number.Double
/-! # TOML values

What a TOML document holds once its notation is out of the way. Tables keep the order in which
their keys first stand in the document.
-/

namespace Wiretap.Toml

/-- A TOML value. A date or time is known to be one, but its parts are not kept. -/
inductive Value where
  | string (text : String)
  | integer (value : Int)
  | float (value : FloatValue)
  | boolean (value : Bool)
  | moment
  | array (items : List Value)
  | table (entries : List (String × Value))
  deriving Repr, Inhabited

abbrev Document := List (String × Value)

end Wiretap.Toml
