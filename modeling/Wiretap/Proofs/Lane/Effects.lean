import Wiretap.Proofs.Lane.Trace
/-! # What a lane does to its devices

A lane changes the state of its devices by calling them and in no other way: what every call keeps, a
step keeps.
-/

namespace Wiretap

variable {ω : Type}

/-- Every call of a device keeps a property of the devices' state. -/
structure Devices.Keeps (d : Devices ω) (P : ω → Prop) : Prop where
  read (limit : Nat) (w : ω) : P w → P (d.read limit w).world
  write (bytes : Bytes) (w : ω) : P w → P (d.write bytes w).world
  flush (w : ω) : P w → P (d.flush w).world
  shutdown (w : ω) : P w → P (d.shutdown w).world
  inspect (event : Event) (w : ω) : P w → P (d.inspect event w).world

theorem Devices.Keeps.muted {d : Devices ω} {P : ω → Prop} (h : d.Keeps P) : d.muted.Keeps P :=
  ⟨h.read, h.write, h.flush, h.shutdown, h.inspect⟩

namespace Lane

variable {d : Devices ω} {P : ω → Prop}

theorem deliver_keeps (h : d.Keeps P) (rest : Bytes) (w : ω) (here : P w) :
    P (deliver d rest w).world := by
  fun_induction deliver d rest w with
  | case1 w =>
      have flushed := h.flush w here
      simp only [flush]
      split <;> exact flushed
  | case2 rest w | case3 rest w | case4 rest w => exact h.write rest w here
  | case5 rest w nonempty r n accepts positive more ih => exact ih (h.write rest w here)

theorem step_keeps (h : d.Keeps P) (lane : Lane) (stopped : Bool) (w : ω) (here : P w) :
    P (lane.step d stopped w).world := by
  unfold step
  cases lane.phase with
  | reading =>
      cases stopped with
      | true => exact here
      | false =>
          have read := h.read lane.capacity w here
          simp only [Bool.false_eq_true, if_false]
          split <;> exact read
  | inspecting chunk => exact h.inspect _ w here
  | writing chunk rest =>
      cases stopped with
      | true => exact here
      | false =>
          have delivered := deliver_keeps h rest w here
          simp only [Bool.false_eq_true, if_false]
          split <;> exact delivered
  | closing termination =>
      have closed := h.shutdown w here
      dsimp only
      split <;> exact closed
  | finished termination => exact here

end Lane

end Wiretap
