import Mathlib.Data.String.Basic
/-! # Texts that are not split

A text in which no separator begins is the only piece of itself.
-/

namespace Wiretap.Text

open String

theorem splitOnAux_of_not_mem {separator : String} (before : List Char) {after : List Char}
    (absent : Pos.Raw.get separator 0 ∉ after) :
    (ofList (before ++ after)).splitOnAux separator 0 ⟨utf8Len before⟩ 0 [] =
      [ofList (before ++ after)] := by
  induction after generalizing before with
  | nil =>
      have all := extract_of_valid [] before []
      simp only [List.nil_append, List.append_nil, utf8Len_nil, Nat.zero_add] at all ⊢
      rw [splitOnAux, if_pos (by simp)]
      simp only [List.reverse_singleton]
      exact congrArg ([·]) all
  | cons c after ih =>
      obtain ⟨other, absent⟩ := List.ne_and_not_mem_of_not_mem_cons absent
      have inside : ¬Pos.Raw.atEnd (ofList (before ++ c :: after)) ⟨utf8Len before⟩ := by
        rw [atEnd_iff, rawEndPos_ofList, utf8Len_append, utf8Len_cons, Pos.Raw.mk_le_mk, Nat.not_le]
        have := c.utf8Size_pos
        omega
      have here := get_of_valid before (c :: after)
      rw [splitOnAux, if_neg inside, here, List.headD_cons, if_neg (by simpa using other.symm)]
      simp only [Pos.Raw.unoffsetBy_zero]
      rw [next_of_valid before c after]
      simpa using ih (before ++ [c]) absent

theorem splitOn_of_not_mem {text separator : String}
    (absent : Pos.Raw.get separator 0 ∉ text.toList) : text.splitOn separator = [text] := by
  rw [splitOn]
  split
  · rfl
  · simpa using splitOnAux_of_not_mem [] absent

end Wiretap.Text
