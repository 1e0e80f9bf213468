import Wiretap.Net.Address
/-! # Targets -/

namespace Wiretap

/-- What a relay forwards to, as it is configured: an address or a name, and a number. -/
structure Target where
  host : String
  portNumber : UInt16
  deriving Repr, DecidableEq, BEq

/-- The notation of a target. The host stands as it is, also without the brackets of an address. -/
def Target.toText (t : Target) : String := s!"{t.host}:{t.portNumber.toNat}"

end Wiretap
