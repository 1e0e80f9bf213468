/-! # Attempts that may have to wait -/

namespace Wiretap

/-- What an attempt comes to. -/
inductive Poll (α : Type) where
  | pending
  | ready (value : α)
  deriving Repr, DecidableEq, BEq

end Wiretap
