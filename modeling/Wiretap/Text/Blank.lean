/-! # Blank characters

The Unicode property `White_Space`, and trimming by it.
-/

namespace Wiretap.Text

/-- The characters with the Unicode property `White_Space`. -/
def isBlank (c : Char) : Bool :=
  let n := c.toNat
  (0x09 ≤ n && n ≤ 0x0D) || n == 0x20 || n == 0x85 || n == 0xA0 || n == 0x1680
    || (0x2000 ≤ n && n ≤ 0x200A) || n == 0x2028 || n == 0x2029 || n == 0x202F
    || n == 0x205F || n == 0x3000

/-- A list of characters without the blank ones at either end. -/
def trimChars (cs : List Char) : List Char :=
  ((cs.dropWhile isBlank).reverse.dropWhile isBlank).reverse

/-- A text without the blank characters at either end. -/
def trim (text : String) : String := String.ofList (trimChars text.toList)

theorem dropWhile_isBlank_append {row : List Char} (plain : ∀ c ∈ row, isBlank c = false)
    (nonempty : row ≠ []) (rest : List Char) : (row ++ rest).dropWhile isBlank = row ++ rest := by
  obtain ⟨c, more, rfl⟩ := List.exists_cons_of_ne_nil nonempty
  have first := plain c List.mem_cons_self
  simp [first]

/-- Blank characters around a text that has none are all that trimming takes away. -/
theorem trimChars_around {before solid after : List Char}
    (blankBefore : ∀ c ∈ before, isBlank c = true) (blankAfter : ∀ c ∈ after, isBlank c = true)
    (plain : ∀ c ∈ solid, isBlank c = false) : trimChars (before ++ solid ++ after) = solid := by
  rw [trimChars, List.append_assoc, List.dropWhile_append_of_pos blankBefore]
  by_cases empty : solid = []
  · have gone : (after ++ []).dropWhile isBlank = [] := List.dropWhile_append_of_pos blankAfter
    rw [List.append_nil] at gone
    simp [empty, gone]
  · have blankBack : ∀ c ∈ after.reverse, isBlank c = true := by simpa using blankAfter
    have plainBack : ∀ c ∈ solid.reverse, isBlank c = false := by simpa using plain
    have back := dropWhile_isBlank_append plainBack (by simpa using empty) []
    rw [List.append_nil] at back
    rw [dropWhile_isBlank_append plain empty, List.reverse_append,
      List.dropWhile_append_of_pos blankBack, back, List.reverse_reverse]

/-- An ASCII letter in lower case; every other character as it is. -/
def lowerAscii (c : Char) : Char :=
  if 'A' ≤ c && c ≤ 'Z' then Char.ofNat (c.toNat + 32) else c

/-- Whether two texts are the same up to the case of ASCII letters. -/
def sameIgnoringAsciiCase (a b : String) : Bool :=
  a.toList.map lowerAscii == b.toList.map lowerAscii

end Wiretap.Text
