import Wiretap.Console
/-! # Lines of byte strings

A line reaches to its newline, and what comes behind the newline is on lines of its own.
-/

namespace Wiretap.Console

variable {bytes head : Bytes}

theorem fresh_or_split (bytes : Bytes) :
    newline ∉ bytes ∨ ∃ head more, newline ∉ head ∧ bytes = head ++ newline :: more := by
  by_cases ends : newline ∈ bytes
  · obtain ⟨head, more, split, fresh⟩ := List.eq_append_cons_of_mem ends
    exact .inr ⟨head, more, fresh, split⟩
  · exact .inl ends

theorem lines_of_newline (fresh : newline ∉ head) (more : Bytes) :
    lines (head ++ newline :: more) = (head ++ [newline]) :: lines more := by
  induction head with
  | nil => simp [lines]
  | cons octet head ih =>
      obtain ⟨other, fresh⟩ := not_or.mp (mt List.mem_cons.mpr fresh)
      rw [List.cons_append, lines, if_neg (Ne.symm other), ih fresh]
      rfl

theorem lines_of_fresh (fresh : newline ∉ bytes) (some_ : bytes ≠ []) : lines bytes = [bytes] := by
  induction bytes with
  | nil => exact (some_ rfl).elim
  | cons octet bytes ih =>
      obtain ⟨other, fresh⟩ := not_or.mp (mt List.mem_cons.mpr fresh)
      rw [lines, if_neg (Ne.symm other)]
      cases bytes with
      | nil => rfl
      | cons => rw [ih fresh (List.cons_ne_nil _ _)]

/-- Bytes that end with a line, or nothing at all. -/
def Closed (bytes : Bytes) : Prop := ∀ b ∈ bytes.getLast?, b = newline

theorem Closed.tail {octet : UInt8} (closed : Closed (octet :: bytes)) : Closed bytes := by
  intro last final
  refine closed last ?_
  rw [Option.mem_def] at final ⊢
  rw [List.getLast?_cons, final, Option.getD_some]

theorem lines_ne_nil (some_ : bytes ≠ []) : lines bytes ≠ [] := by
  obtain ⟨octet, rest, rfl⟩ := List.exists_cons_of_ne_nil some_
  rw [lines]
  split
  · exact List.cons_ne_nil _ _
  · cases lines rest <;> exact List.cons_ne_nil _ _

theorem lines_append (closed : Closed bytes) (more : Bytes) :
    lines (bytes ++ more) = lines bytes ++ lines more := by
  induction bytes with
  | nil => rfl
  | cons octet bytes ih =>
      rw [List.cons_append, lines, lines, ih closed.tail]
      by_cases ends : octet = newline
      · rw [if_pos ends, if_pos ends, List.cons_append]
      · have some_ : bytes ≠ [] := by
          rintro rfl
          exact ends (closed octet rfl)
        obtain ⟨line, others, split⟩ := List.exists_cons_of_ne_nil (lines_ne_nil some_)
        rw [if_neg ends, if_neg ends, split]
        rfl

theorem lines_flatMap {ls : List Bytes} (fresh : ∀ line ∈ ls, newline ∉ line) :
    lines (ls.flatMap (· ++ [newline])) = ls.map (· ++ [newline]) := by
  induction ls with
  | nil => rfl
  | cons line ls ih =>
      obtain ⟨fresh, others⟩ := List.forall_mem_cons.mp fresh
      rw [List.flatMap_cons, List.append_assoc, List.singleton_append, lines_of_newline fresh, ih others,
        List.map_cons]

end Wiretap.Console
