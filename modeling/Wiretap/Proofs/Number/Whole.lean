import Mathlib.Tactic.Ring
import Wiretap.Number.Double
/-! # Whole numbers in double precision

A whole number up to `2 ^ 53` is a magnitude of its own, and half of the way to its neighbours is less than
one. So no other whole number rounds to it, and what is written of it is all its digits.
-/

namespace Wiretap.Double

variable {n k x : Nat}

/-! ## The magnitude of a whole number -/

theorem Ratio.shift_neg (r : Ratio) (k : Nat) : r.shift (-k) = ⟨r.num * 2 ^ k, r.den⟩ := by
  cases k with
  | zero => simp [shift]
  | succ k =>
      have below : ¬-((k + 1 : Nat) : Int) ≥ 0 := by omega
      rw [shift, if_neg below, Int.neg_neg, Int.toNat_natCast]
      rfl

theorem Ratio.scaled_neg (coefficient base k : Nat) :
    scaled coefficient base (-k) = ⟨coefficient, base ^ k⟩ := by
  cases k with
  | zero => simp [scaled]
  | succ k =>
      have below : ¬-((k + 1 : Nat) : Int) ≥ 0 := by omega
      rw [scaled, if_neg below, Int.neg_neg, Int.toNat_natCast]
      rfl

theorem Ratio.scaled_natCast (coefficient base k : Nat) :
    scaled coefficient base k = ⟨coefficient * base ^ k, 1⟩ := by
  simp [scaled]

theorem roundHalfEven_one (n : Nat) : roundHalfEven n 1 = n := by
  simp [roundHalfEven, Nat.mod_one]

/-- The mantissa of a number of so many binary digits. -/
theorem mantissa_bounds (some_ : n ≠ 0) (log : n.log2 + k = 52) :
    2 ^ 52 ≤ n * 2 ^ k ∧ n * 2 ^ k < mantissaCount := by
  have least := Nat.mul_le_mul_right (2 ^ k) (Nat.log2_self_le some_)
  have most := Nat.mul_lt_mul_of_pos_right (Nat.lt_log2_self (n := n)) (Nat.two_pow_pos k)
  rw [← pow_add, log] at least
  rw [← pow_add, Nat.add_right_comm, log] at most
  exact ⟨least, most⟩

theorem exponentFor_whole (some_ : n ≠ 0) (log : n.log2 + k = 52) :
    exponentFor ⟨n, 1⟩ = -k := by
  have guess : (n.log2 : Int) - ((1 : Nat).log2 : Int) - 53 = -(k + 1 : Nat) := by
    have one : (1 : Nat).log2 = 0 := by decide
    omega
  have large : ¬n * 2 ^ (k + 1) / 1 < mantissaCount := by
    have bounds := (mantissa_bounds some_ log).1
    rw [Nat.div_one, pow_succ, ← Nat.mul_assoc, mantissaCount]
    omega
  simp only [exponentFor, guess, Ratio.shift_neg, if_neg large]
  omega

theorem ofWord_of_log2 (some_ : n ≠ 0) (log : n.log2 + k = 52) : ofWord n = ⟨n * 2 ^ k, -k⟩ := by
  have small := (mantissa_bounds some_ log).2
  have full : (n * 2 ^ k == mantissaCount) = false := beq_false_of_ne (Nat.ne_of_lt small)
  have fits : ¬-(k : Int) > 971 := by omega
  simp [ofWord, ofRatio?, some_, exponentFor_whole some_ log, Ratio.shift_neg, roundHalfEven_one, full,
    fits]

/-! ## The whole numbers that round to it -/

theorem holds_interval_iff (some_ : n ≠ 0) (power : Nat) :
    (interval ⟨n * 2 ^ k, -k⟩).holds x power = true ↔ x * 10 ^ power = n := by
  have unit : -(k : Int) - 2 = -(k + 2 : Nat) := by omega
  have quarter : 2 ^ (k + 2) = 4 * 2 ^ k := by ring
  simp only [Interval.holds, interval, unit, Ratio.scaled_neg, Ratio.scaled_natCast, quarter]
  generalize x * 10 ^ power = y
  have one : 0 < 2 ^ k := Nat.two_pow_pos k
  have scale : y * (4 * 2 ^ k) = 4 * (y * 2 ^ k) := by ring
  rw [scale]
  have below (less : y < n) : y * 2 ^ k + 2 ^ k ≤ n * 2 ^ k := by
    rw [← Nat.succ_mul]
    exact Nat.mul_le_mul_right _ less
  have above (more : n < y) : n * 2 ^ k + 2 ^ k ≤ y * 2 ^ k := by
    rw [← Nat.succ_mul]
    exact Nat.mul_le_mul_right _ more
  constructor
  · intro holds
    by_contra other
    rcases Nat.lt_or_gt_of_ne other with less | more
    · have := below less
      split at holds <;> split at holds <;> simp at holds <;> omega
    · have := above more
      split at holds <;> simp at holds <;> omega
  · rintro rfl
    have := Nat.mul_pos (Nat.pos_of_ne_zero some_) one
    split <;> split <;> simp <;> omega

theorem holds_of_onGrid? {value : Ratio} {i : Interval} {power : Int} {d : Decimal}
    (found : onGrid? value i power = some d) : d.power = power ∧ i.holds d.digits power = true := by
  unfold onGrid? at found
  extract_lets _ _ _ _ first second at found
  split at found
  next holds =>
    cases found
    exact ⟨rfl, holds⟩
  next =>
    split at found
    next holds =>
      cases found
      exact ⟨rfl, holds⟩
    next => cases found

/-- The finest grid of whole numbers has the number. -/
theorem onGrid?_zero (some_ : n ≠ 0) :
    onGrid? ⟨n * 2 ^ k, 2 ^ k⟩ (interval ⟨n * 2 ^ k, -k⟩) 0 = some ⟨n, 0⟩ := by
  have holds := (holds_interval_iff (k := k) (x := n) some_ 0).mpr (Nat.mul_one n)
  have step : Ratio.scaled 1 10 0 = ⟨1, 1⟩ := by decide
  have whole : n * 2 ^ k / 2 ^ k = n := Nat.mul_div_cancel n (Nat.two_pow_pos k)
  rw [Int.natCast_zero] at holds
  simp [onGrid?, step, whole, holds]

/-- A search from coarse to fine ends no later than at a grid that has a number. -/
theorem searchGrids_of_onGrid? {value : Ratio} {i : Interval} {top : Int} {P : Decimal → Prop}
    {grids : List Nat} {m : Nat} (order : grids.Pairwise (· < ·)) (there : m ∈ grids)
    (fits : ∀ j ≤ m, ∀ d, onGrid? value i (top - j) = some d → P d)
    (ends : (onGrid? value i (top - m)).isSome) : P (searchGrids value i top grids) := by
  induction grids with
  | nil => cases there
  | cons j grids ih =>
      obtain ⟨first, order⟩ := List.pairwise_cons.mp order
      have early : j ≤ m := by
        rcases List.mem_cons.mp there with rfl | later
        · exact Nat.le_refl m
        · exact Nat.le_of_lt (first m later)
      simp only [searchGrids]
      split
      next d found => exact fits j early d found
      next none =>
        rcases List.mem_cons.mp there with rfl | later
        · simp [none] at ends
        · exact ih order later

/-! ## Its digits -/

theorem toDigits_mul_pow (some_ : n ≠ 0) (power : Nat) :
    Nat.toDigits 10 (n * 10 ^ power) = Nat.toDigits 10 n ++ List.replicate power '0' := by
  induction power with
  | zero => simp
  | succ power ih =>
      have pos : 0 < n * 10 ^ power :=
        Nat.mul_pos (Nat.pos_of_ne_zero some_) (Nat.pow_pos (by decide))
      have zero := Nat.toDigits_append_toDigits (b := 10) (d := 0) (by decide) pos (by decide)
      rw [List.replicate_succ', ← List.append_assoc, ← ih]
      have shift : n * 10 ^ (power + 1) = 10 * (n * 10 ^ power) + 0 := by ring
      rw [shift, ← zero]
      rfl

theorem positional_of_whole {d : Decimal} {power : Nat} (whole : d.power = power)
    (value : d.digits * 10 ^ power = n) (some_ : n ≠ 0) : d.positional = toString n := by
  have digits : d.digits ≠ 0 := by
    rintro zero
    exact some_ (value ▸ by rw [zero, Nat.zero_mul])
  have places : d.power ≥ 0 := by omega
  rw [Decimal.positional, if_pos places, if_neg (by simpa using digits), whole, Int.toNat_natCast,
    ← toDigits_mul_pow digits, value, Nat.toString_eq_ofList_toDigits]

theorem positional_of_log2 (some_ : n ≠ 0) (log : n.log2 + k = 52) :
    (ofWord n).positional = toString n := by
  have mantissa : n * 2 ^ k ≠ 0 := Nat.mul_ne_zero some_ (Nat.two_pow_pos k).ne'
  obtain ⟨top, places⟩ : ∃ top, (Nat.toDigits 10 n).length = top + 1 :=
    ⟨_, (Nat.succ_pred_eq_of_pos Nat.length_toDigits_pos).symm⟩
  have few : top < 18 := by
    have small : n < 10 ^ 16 := by
      have bound : n < 2 ^ 53 := (Nat.log2_lt some_).mp (by omega)
      omega
    have := (Nat.length_toDigits_le_iff (b := 10) (by decide) (by decide)).mpr small
    omega
  have log10 : Double.log10 ⟨n * 2 ^ k, 2 ^ k⟩ = top := by
    have least : n * 2 ^ k ≥ 2 ^ k := Nat.le_mul_of_pos_left _ (Nat.pos_of_ne_zero some_)
    simp only [Double.log10, if_pos least, Nat.mul_div_cancel n (Nat.two_pow_pos k), places]
    omega
  rw [positional, shortest, ofWord_of_log2 some_ log]
  simp only [Ratio.scaled_neg, log10, mantissa, beq_iff_eq, if_false]
  refine searchGrids_of_onGrid? (P := fun d => d.positional = toString n) List.pairwise_lt_range
    (List.mem_range.mpr few) ?_ ?_
  · intro j early d found
    obtain ⟨power, holds⟩ := holds_of_onGrid? found
    have whole : (top : Int) - j = (top - j : Nat) := by omega
    rw [whole] at power holds
    exact positional_of_whole power ((holds_interval_iff some_ _).mp holds) some_
  · rw [Int.sub_self, onGrid?_zero some_]
    rfl

/-- A whole number that double precision has room for is written with its digits. -/
theorem positional_ofWord (small : n ≤ mantissaCount) : (ofWord n).positional = toString n := by
  rcases Nat.eq_zero_or_pos n with rfl | some_
  · decide +kernel
  · rcases Nat.lt_or_eq_of_le small with less | rfl
    · have log : n.log2 < 53 := (Nat.log2_lt some_.ne').mpr less
      exact positional_of_log2 some_.ne' (Nat.add_sub_of_le (Nat.le_of_lt_succ log))
    · decide +kernel

/-! ## What is written -/

theorem Decimal.isDigit_or_point {d : Decimal} {c : Char} (there : c ∈ d.positional.toList) :
    c.isDigit = true ∨ c = '.' := by
  have digits (c : Char) (there : c ∈ Nat.toDigits 10 d.digits) : c.isDigit = true :=
    Nat.isDigit_of_mem_toDigits (by decide) (by decide) there
  have zeros (n : Nat) (c : Char) (there : c ∈ List.replicate n '0') : c.isDigit = true :=
    (List.mem_replicate.mp there).2 ▸ rfl
  unfold positional at there
  extract_lets ds places padded whole fraction at there
  split at there
  · split at there
    · rw [show "0".toList = ['0'] from rfl, List.mem_singleton] at there
      exact .inl (there ▸ rfl)
    · rw [String.toList_ofList, List.mem_append] at there
      exact .inl (there.elim (digits c) (zeros _ c))
  · have whole_digits (c : Char) (there : c ∈ padded) : c.isDigit = true :=
      (List.mem_append.mp there).elim (zeros _ c) (digits c)
    have behind (c : Char) (there : c ∈ fraction) : c.isDigit = true :=
      whole_digits c (List.mem_of_mem_drop
        (List.mem_reverse.mp ((List.dropWhile_sublist _).subset there)))
    have before (c : Char) (there : c ∈ whole) : c.isDigit = true :=
      whole_digits c (List.mem_of_mem_take there)
    split at there
    · rw [String.toList_ofList] at there
      exact .inl (before c there)
    · rw [String.toList_ofList, List.mem_append, List.mem_cons, List.mem_reverse] at there
      rcases there with there | point | there
      · exact .inl (before c there)
      · exact .inr point
      · exact .inl (behind c there)

end Wiretap.Double
