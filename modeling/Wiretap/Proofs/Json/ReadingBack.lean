import Wiretap.Capture.Record
import Wiretap.Proofs.Text.Utf8
/-! # Strings and numbers in JSON texts there and back

A written string or number is read back, and there is no newline in it.
-/

namespace Wiretap.Json

variable {b : UInt8}

/-! ## White space and marks -/

theorem skipSpace_of_token (token : isSpace b = false) (rest : Bytes) :
    skipSpace (b :: rest) = b :: rest := by
  rw [skipSpace, List.dropWhile_cons_of_neg (by simp [token])]

theorem not_isSpace_of_isDigit (digit : isDigit b = true) : isSpace b = false := by
  simp only [isSpace, Bool.or_eq_false_iff, beq_eq_false_iff_ne]
  refine ⟨⟨⟨?_, ?_⟩, ?_⟩, ?_⟩ <;> rintro rfl <;> cases digit

/-! ## Strings -/

theorem hexValue?_hexCode : ∀ n < 16, hexValue? (hexCode n) = some n := by decide +kernel

theorem hexCode_ne_newline : ∀ n < 16, hexCode n ≠ 10 := by decide +kernel

theorem pointBytes_of_control : ∀ n < 32, pointBytes n = [n.toUInt8] := by decide +kernel

theorem unit_hexCode {n : Nat} (small : n < 256) (rest : Bytes) :
    unit (48 :: 48 :: hexCode (n / 16) :: hexCode (n % 16) :: rest) = .ok (n, rest) := by
  have zero : hexValue? 48 = some 0 := rfl
  simp only [unit, zero, hexValue?_hexCode _ (show n / 16 < 16 by omega),
    hexValue?_hexCode _ (show n % 16 < 16 by omega)]
  rw [show 0 * 4096 + 0 * 256 + n / 16 * 16 + n % 16 = n by omega]

theorem escaped_of_control (control : b < 32) (rest : Bytes) :
    escaped (117 :: 48 :: 48 :: hexCode (b.toNat / 16) :: hexCode (b.toNat % 16) :: rest) =
      .ok ([b], rest) := by
  have small : b.toNat < 32 := control
  have low : isLowHalf b.toNat = false := by simp [isLowHalf]; omega
  have high : isHighHalf b.toNat = false := by simp [isHighHalf]; omega
  simp only [escaped, unit_hexCode b.toNat_lt, bind, Except.bind, low, high, pointBytes_of_control _ small]
  simp [pure, Except.pure]

/-- An octet is written as itself, or as a backslash and what stands for it in an escape. -/
theorem escape_cases (b : UInt8) :
    (∃ piece, escape b = 92 :: piece ∧ 10 ∉ piece ∧
        ∀ rest, escaped (piece ++ rest) = .ok ([b], rest)) ∨
      (escape b = [b] ∧ b ≠ 34 ∧ b ≠ 92 ∧ ¬b < 32) := by
  have one (c : UInt8) (some_ : c ≠ 10) (stands : ∀ rest, escaped (c :: rest) = .ok ([b], rest)) :
      ∃ piece, [92, c] = 92 :: piece ∧ 10 ∉ piece ∧
        ∀ rest, escaped (piece ++ rest) = .ok ([b], rest) :=
    ⟨[c], rfl, by simpa using some_.symm, stands⟩
  simp only [escape, beq_iff_eq]
  split
  next same => exact .inl (one 34 (by decide) fun _ => by rw [same]; rfl)
  split
  next same => exact .inl (one 92 (by decide) fun _ => by rw [same]; rfl)
  split
  next same => exact .inl (one 98 (by decide) fun _ => by rw [same]; rfl)
  split
  next same => exact .inl (one 102 (by decide) fun _ => by rw [same]; rfl)
  split
  next same => exact .inl (one 110 (by decide) fun _ => by rw [same]; rfl)
  split
  next same => exact .inl (one 114 (by decide) fun _ => by rw [same]; rfl)
  split
  next same => exact .inl (one 116 (by decide) fun _ => by rw [same]; rfl)
  split
  next control =>
    refine .inl ⟨_, rfl, ?_, escaped_of_control control⟩
    have small : b.toNat < 32 := control
    have high := hexCode_ne_newline (b.toNat / 16) (by omega)
    have low := hexCode_ne_newline (b.toNat % 16) (by omega)
    simp [high.symm, low.symm]
  next quote backslash _ _ _ _ _ plain => exact .inr ⟨rfl, quote, backslash, plain⟩

theorem newline_notin_escape (b : UInt8) : 10 ∉ escape b := by
  obtain ⟨piece, written, fresh, _⟩ | ⟨written, _, _, plain⟩ := escape_cases b
  · rw [written]
    simpa using fresh
  · rw [written, List.mem_singleton]
    rintro rfl
    exact plain (by decide)

/-- An octet of a written string is one piece. -/
theorem stringPieces_escape (b x : UInt8) (bound rest : Bytes) :
    stringPieces (x :: bound) (escape b ++ rest) =
      (stringPieces bound rest).map fun p => (b :: p.1, p.2) := by
  obtain ⟨piece, written, _, stands⟩ | ⟨written, quote, backslash, plain⟩ := escape_cases b
  · rw [written, List.cons_append, stringPieces, if_neg (by decide), if_pos (by decide), stands]
    simp only [bind, Except.bind]
    cases stringPieces bound rest <;> rfl
  · rw [written, List.singleton_append, stringPieces, if_neg (by simpa using quote),
      if_neg (by simpa using backslash), if_neg plain]
    cases stringPieces bound rest <;> rfl

theorem stringPieces_flatMap_escape (body bound rest : Bytes) (room : body.length < bound.length) :
    stringPieces bound (body.flatMap escape ++ 34 :: rest) = .ok (body, rest) := by
  induction body generalizing bound with
  | nil =>
      obtain ⟨x, bound, rfl⟩ := List.exists_cons_of_length_pos room
      rw [List.flatMap_nil, List.nil_append, stringPieces, if_pos (by decide)]
  | cons b body ih =>
      obtain ⟨x, bound, rfl⟩ := List.exists_cons_of_length_pos (Nat.zero_lt_of_lt room)
      rw [List.flatMap_cons, List.append_assoc, stringPieces_escape, ih bound (Nat.lt_of_succ_lt_succ room)]
      rfl

theorem length_le_flatMap_escape (body : Bytes) : body.length ≤ (body.flatMap escape).length := by
  induction body with
  | nil => exact Nat.le_refl 0
  | cons b body ih =>
      have some_ : 0 < (escape b).length := by
        obtain ⟨piece, written, _⟩ | ⟨written, _⟩ := escape_cases b <;> rw [written] <;> simp
      simp only [List.length_cons, List.flatMap_cons, List.length_append]
      omega

/-- A string is read back, whatever comes behind it. -/
theorem stringRest_string (text : String) (rest : Bytes) :
    stringRest ((Bytes.ofText text).flatMap escape ++ 34 :: rest) = .ok (text, rest) := by
  have room := length_le_flatMap_escape (Bytes.ofText text)
  rw [stringRest, stringPieces_flatMap_escape _ _ _ (by rw [List.length_append, List.length_cons]; omega)]
  simp only [bind, Except.bind, Bytes.toText?_ofText]
  rfl

theorem string_append (text : String) (rest : Bytes) :
    string text ++ rest = 34 :: ((Bytes.ofText text).flatMap escape ++ 34 :: rest) := by
  simp [string]

theorem newline_notin_string (text : String) : 10 ∉ string text := by
  simp [string, newline_notin_escape]

theorem text_string (t : String) (rest : Bytes) : text (string t ++ rest) = .ok (t, rest) := by
  rw [string_append, text, skipSpace_of_token rfl]
  exact stringRest_string t rest

/-! ## Numbers -/

namespace Number

theorem isDigit_code {c : Char} (digit : c.isDigit) :
    isDigit (code c) = true ∧ digitValue (code c) = c.toNat - 48 ∧ (code c = 48 → c = '0') := by
  obtain ⟨low, high⟩ : 48 ≤ c.toNat ∧ c.toNat ≤ 57 := by
    simpa [Char.isDigit, UInt32.le_iff_toNat_le] using digit
  have number : (code c).toNat = c.toNat := UInt8.toNat_ofNat_of_lt' (show c.toNat < 256 by omega)
  refine ⟨?_, by rw [digitValue, number], fun zero => ?_⟩
  · simp [isDigit, UInt8.le_iff_toNat_le, number]
    omega
  · rw [zero] at number
    exact Char.toNat_inj.mp number.symm

theorem le_ofDigitChars (cs : List Char) (init : Nat) : init ≤ Nat.ofDigitChars 10 cs init := by
  induction cs generalizing init with
  | nil => simp
  | cons c cs ih =>
      rw [Nat.ofDigitChars_cons]
      exact Nat.le_trans (by omega) (ih _)

theorem keep_map_code {cs : List Char} (digits : ∀ c ∈ cs, c.isDigit) (init : Nat)
    (fits : Nat.ofDigitChars 10 cs init ≤ maxWord) :
    keep init (cs.map code) = (Nat.ofDigitChars 10 cs init, []) := by
  induction cs generalizing init with
  | nil => simp [keep]
  | cons c cs ih =>
      obtain ⟨_, value, _⟩ := isDigit_code (digits c List.mem_cons_self)
      rw [Nat.ofDigitChars_cons] at fits ⊢
      have next : init * 10 + digitValue (code c) = 10 * init + (c.toNat - '0'.toNat) := by
        rw [value, Nat.mul_comm]
        rfl
      rw [List.map_cons, keep, next, if_pos (Nat.le_trans (le_ofDigitChars cs _) fits)]
      exact ih (fun c member => digits c (List.mem_cons_of_mem _ member)) _ fits

theorem digitChar_ne_zero : ∀ n < 10, 0 < n → n.digitChar ≠ '0' := by decide

theorem toDigits_head {n : Nat} (pos : 0 < n) : ∃ c cs, Nat.toDigits 10 n = c :: cs ∧ c ≠ '0' := by
  induction n using Nat.strongRecOn with
  | ind n ih =>
      by_cases one : n < 10
      · exact ⟨n.digitChar, [], Nat.toDigits_of_lt_base one, digitChar_ne_zero n one pos⟩
      · obtain ⟨c, cs, front, other⟩ := ih (n / 10) (by omega) (by omega)
        exact ⟨c, cs ++ [(n % 10).digitChar], by
          rw [Nat.toDigits_of_base_le (by decide) (by omega), front, List.cons_append], other⟩

theorem all_isDigit (n : Nat) : ∀ b ∈ CaptureRecord.digits n, isDigit b = true := by
  intro b member
  obtain ⟨c, among, rfl⟩ := List.mem_map.mp member
  exact (isDigit_code (Nat.isDigit_of_mem_toDigits (by decide) (by decide) among)).1

theorem keep_digits {n : Nat} (fits : n ≤ maxWord) : keep 0 (CaptureRecord.digits n) = (n, []) := by
  have digits : ∀ c ∈ Nat.toDigits 10 n, c.isDigit := fun c member =>
    Nat.isDigit_of_mem_toDigits (by decide) (by decide) member
  have value := Nat.ofDigitChars_ten_toDigits (n := n)
  rw [CaptureRecord.digits, keep_map_code digits 0 (by rwa [value]), value]

/-- There is no leading zero but in zero itself. -/
theorem digits_cases (n : Nat) : ∃ b after, CaptureRecord.digits n = b :: after ∧
    isDigit b = true ∧ (b = 48 → after = []) := by
  rcases Nat.eq_zero_or_pos n with rfl | pos
  · exact ⟨48, [], by simp [CaptureRecord.digits]; rfl, rfl, fun _ => rfl⟩
  · obtain ⟨c, cs, split, other⟩ := toDigits_head pos
    have first : c ∈ Nat.toDigits 10 n := split ▸ List.mem_cons_self
    have digit : c.isDigit := Nat.isDigit_of_mem_toDigits (by decide) (by decide) first
    obtain ⟨isDigit, _, zero⟩ := isDigit_code digit
    exact ⟨code c, cs.map code, by rw [CaptureRecord.digits, split, List.map_cons], isDigit,
      fun same => (other (zero same)).elim⟩

/-- A number is read back from its digits when a comma or a closing brace comes behind. -/
theorem read_digits {n : Nat} (fits : n ≤ maxWord) (ends : b = 44 ∨ b = 125) (rest : Bytes) :
    read (CaptureRecord.digits n ++ b :: rest) = .ok (.unsigned n, b :: rest) := by
  obtain ⟨first, after, split, digit, zero⟩ := digits_cases n
  have all := all_isDigit n
  have other : isDigit b = false := by rcases ends with rfl | rfl <;> rfl
  have taken : (CaptureRecord.digits n ++ b :: rest).takeWhile isDigit = CaptureRecord.digits n := by
    rw [List.takeWhile_append_of_pos all, List.takeWhile_cons_of_neg (by simp [other]), List.append_nil]
  have left : (CaptureRecord.digits n ++ b :: rest).dropWhile isDigit = b :: rest := by
    rw [List.dropWhile_append_of_pos all, List.dropWhile_cons_of_neg (by simp [other])]
  have unsigned : read (first :: (after ++ b :: rest)) = magnitude false (first :: (after ++ b :: rest)) := by
    rw [read.eq_2]
    rintro _ ⟨⟩
    cases digit
  have single : (first == 48 && startsWithDigit (after ++ b :: rest)) = false := by
    by_cases same : first = 48
    · simpa [zero same, startsWithDigit] using fun _ => other
    · simp [same]
  rw [split, List.cons_append] at taken left ⊢
  rw [unsigned, magnitude]
  simp only [digit, single, taken, left, ← split, keep_digits fits]
  rcases ends with rfl | rfl <;> rfl

end Number

theorem unsigned_digits {n bound : Nat} (within : n ≤ bound) (fits : n ≤ Number.maxWord)
    (ends : b = 44 ∨ b = 125) (expected : String) (rest : Bytes) :
    unsigned bound expected (CaptureRecord.digits n ++ b :: rest) = .ok (n, b :: rest) := by
  obtain ⟨first, after, split, digit, _⟩ := Number.digits_cases n
  have reads := Number.read_digits fits ends rest
  rw [split, List.cons_append] at reads ⊢
  rw [unsigned, skipSpace_of_token (not_isSpace_of_isDigit digit)]
  simp only [digit, Bool.or_true, if_true, reads, bind, Except.bind, within]
  rfl

theorem newline_notin_digits (n : Nat) : 10 ∉ CaptureRecord.digits n := fun member =>
  absurd (Number.all_isDigit n 10 member) (by decide)

end Wiretap.Json
