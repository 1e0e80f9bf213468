import Wiretap.Counters.Exposition
/-! # Labels in a line

What escaping makes of a value has no bare quotation mark and no newline. So a value ends at the first
quotation mark behind it, and labels can be read back from where they stand in a line, whatever follows.
-/

namespace Wiretap

variable {x y : List Char}

/-- No escaped character is the beginning of another one. -/
theorem labelChar_append_inj {a b : Char} (h : labelChar a ++ x = labelChar b ++ y) :
    a = b ∧ x = y := by
  grind [labelChar]

/-- A quotation mark never stands bare. -/
theorem labelChar_append_ne {c : Char} : labelChar c ++ x ≠ '"' :: y := by
  grind [labelChar]

theorem newline_notin_labelChar (c : Char) : '\n' ∉ labelChar c := by
  grind [labelChar]

theorem escaped_append_inj {s t : List Char}
    (h : s.flatMap labelChar ++ '"' :: x = t.flatMap labelChar ++ '"' :: y) : s = t ∧ x = y := by
  induction s generalizing t with
  | nil =>
      cases t with
      | nil => exact ⟨rfl, (List.cons.inj h).2⟩
      | cons c t =>
          rw [List.flatMap_cons, List.append_assoc] at h
          exact (labelChar_append_ne h.symm).elim
  | cons b s ih =>
      cases t with
      | nil =>
          rw [List.flatMap_cons, List.append_assoc] at h
          exact (labelChar_append_ne h).elim
      | cons c t =>
          rw [List.flatMap_cons, List.flatMap_cons, List.append_assoc, List.append_assoc] at h
          obtain ⟨rfl, behind⟩ := labelChar_append_inj h
          obtain ⟨rfl, rest⟩ := ih behind
          exact ⟨rfl, rest⟩

theorem labelText_append_inj {name v w : String}
    (h : (labelText name v).toList ++ x = (labelText name w).toList ++ y) : v = w ∧ x = y := by
  simp only [labelText, String.toList_append, String.toList_ofList, List.append_assoc] at h
  obtain ⟨same, rest⟩ := escaped_append_inj (List.append_cancel_left (List.append_cancel_left h))
  exact ⟨String.toList_inj.mp same, rest⟩

theorem newline_notin_labelText {name : String} (fresh : '\n' ∉ name.toList) (value : String) :
    '\n' ∉ (labelText name value).toList := by
  have escaped : '\n' ∉ value.toList.flatMap labelChar := by
    rw [List.mem_flatMap]
    rintro ⟨c, _, there⟩
    exact newline_notin_labelChar c there
  simp [labelText, fresh, escaped]

/-- Labels as they stand between the braces of a line. -/
def labelsText (labels : List (String × String)) : String :=
  ",".intercalate (labels.map fun l => labelText l.1 l.2)

theorem labelsText_cons_cons (l m : String × String) (labels : List (String × String)) :
    labelsText (l :: m :: labels) = labelText l.1 l.2 ++ "," ++ labelsText (m :: labels) :=
  String.intercalate_cons_cons

theorem labelsText_append_inj {ls ms : List (String × String)} (names : ls.map (·.1) = ms.map (·.1))
    (h : (labelsText ls).toList ++ x = (labelsText ms).toList ++ y) : ls = ms ∧ x = y := by
  induction ls generalizing ms with
  | nil =>
      obtain rfl : ms = [] := List.map_eq_nil_iff.mp names.symm
      exact ⟨rfl, List.append_cancel_left h⟩
  | cons l ls ih =>
      obtain ⟨m, ms, rfl⟩ := List.exists_cons_of_ne_nil fun none : ms = [] => by simp [none] at names
      obtain ⟨name, others⟩ := List.cons.inj names
      have first {x y : List Char}
          (h : (labelText l.1 l.2).toList ++ x = (labelText m.1 m.2).toList ++ y) : l = m ∧ x = y := by
        rw [← show l.1 = m.1 from name] at h
        obtain ⟨value, rest⟩ := labelText_append_inj h
        exact ⟨Prod.ext name value, rest⟩
      cases ls with
      | nil =>
          obtain rfl : ms = [] := List.map_eq_nil_iff.mp others.symm
          obtain ⟨rfl, rest⟩ := first h
          exact ⟨rfl, rest⟩
      | cons l' ls =>
          obtain ⟨m', ms, rfl⟩ := List.exists_cons_of_ne_nil fun none : ms = [] => by simp [none] at others
          simp only [labelsText_cons_cons, String.toList_append, List.append_assoc] at h
          obtain ⟨rfl, behind⟩ := first h
          obtain ⟨same, rest⟩ := ih others (List.append_cancel_left behind)
          rw [same]
          exact ⟨rfl, rest⟩

theorem newline_notin_labelsText {labels : List (String × String)}
    (fresh : ∀ l ∈ labels, '\n' ∉ l.1.toList) : '\n' ∉ (labelsText labels).toList := by
  induction labels with
  | nil => decide
  | cons l labels ih =>
      obtain ⟨first, others⟩ := List.forall_mem_cons.mp fresh
      cases labels with
      | nil => exact newline_notin_labelText first l.2
      | cons m labels =>
          have text := newline_notin_labelText first l.2
          simp [labelsText_cons_cons, text, ih others]

end Wiretap
