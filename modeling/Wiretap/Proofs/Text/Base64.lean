import Wiretap.Proofs.Text.Utf8
import Wiretap.Text.Base64
/-! # Base64 there and back

Every byte string is read back from its written form, and a text that is read as a byte string is its
written form: the reading takes nothing but what the writing gives.
-/

namespace Wiretap.Text.Base64

/-! ## Characters -/

theorem value?_symbol : ∀ n < 64, value? (symbol n) = some n := by decide +kernel

theorem symbol_ne_padding : ∀ n < 64, symbol n ≠ '=' := by decide +kernel

theorem within_range {low high c : Char} (inside : low ≤ c ∧ c ≤ high) :
    c.toNat - low.toNat ≤ high.toNat - low.toNat ∧
      Char.ofNat (low.toNat + (c.toNat - low.toNat)) = c := by
  have above : low.toNat ≤ c.toNat := inside.1
  have below : c.toNat ≤ high.toNat := inside.2
  exact ⟨Nat.sub_le_sub_right below _, by rw [Nat.add_sub_cancel' above, Char.ofNat_toNat]⟩

theorem symbol_of_value? {c : Char} {n : Nat} (value : value? c = some n) : n < 64 ∧ symbol n = c := by
  simp only [value?, Bool.and_eq_true, decide_eq_true_eq] at value
  split at value
  next upper =>
    obtain ⟨bound, back⟩ := within_range upper
    have bound : c.toNat - 'A'.toNat ≤ 25 := bound
    cases value
    exact ⟨by omega, by rw [symbol, if_pos (by omega), back]⟩
  split at value
  next lower =>
    obtain ⟨bound, back⟩ := within_range lower
    have bound : c.toNat - 'a'.toNat ≤ 25 := bound
    cases value
    exact ⟨by omega, by rw [symbol, if_neg (by omega), if_pos (by omega), Nat.add_sub_cancel, back]⟩
  split at value
  next digit =>
    obtain ⟨bound, back⟩ := within_range digit
    have bound : c.toNat - '0'.toNat ≤ 9 := bound
    cases value
    exact ⟨by omega, by
      rw [symbol, if_neg (by omega), if_neg (by omega), if_pos (by omega), Nat.add_sub_cancel, back]⟩
  split at value
  next plus =>
    cases value
    exact ⟨by decide, plus ▸ rfl⟩
  split at value
  next slash =>
    cases value
    exact ⟨by decide, slash ▸ rfl⟩
  next => cases value

/-! ## Groups of characters -/

theorem decodeChars?_group {d : Char} (unpadded : d ≠ '=') (a b c : Char) (rest : List Char) :
    decodeChars? (a :: b :: c :: d :: rest) = do
      let octets := full (← value? a) (← value? b) (← value? c) (← value? d)
      return octets ++ (← decodeChars? rest) := by
  rw [decodeChars?.eq_def]
  split
  case h_5 other => exact (other a b c d rest rfl).elim
  all_goals simp_all

theorem decodeChars?_encodeChars (bytes : Bytes) : decodeChars? (encodeChars bytes) = some bytes := by
  fun_induction encodeChars bytes with
  | case1 => rfl
  | case2 a =>
      have small := a.toNat_lt
      simp only [decodeChars?, value?_symbol _ (show a.toNat / 4 < 64 by omega),
        value?_symbol _ (show a.toNat % 4 * 16 < 64 by omega), Option.bind_eq_bind, Option.bind_some,
        lastOne?]
      rw [if_pos (by omega), ofNat_eq (b := a) (by omega)]
  | case3 a b =>
      have small := a.toNat_lt
      have small := b.toNat_lt
      have unpadded := symbol_ne_padding (b.toNat % 16 * 4) (by omega)
      simp only [decodeChars?, value?_symbol _ (show a.toNat / 4 < 64 by omega),
        value?_symbol _ (show a.toNat % 4 * 16 + b.toNat / 16 < 64 by omega),
        value?_symbol _ (show b.toNat % 16 * 4 < 64 by omega), Option.bind_eq_bind, Option.bind_some,
        lastTwo?]
      rw [if_pos (by omega), ofNat_eq (b := a) (by omega), ofNat_eq (b := b) (by omega)]
  | case4 a b c rest ih =>
      have small := a.toNat_lt
      have small := b.toNat_lt
      have small := c.toNat_lt
      have unpadded := symbol_ne_padding (c.toNat % 64) (by omega)
      simp only [group, List.cons_append, List.nil_append]
      rw [decodeChars?_group unpadded]
      simp only [ih, value?_symbol _ (show a.toNat / 4 < 64 by omega),
        value?_symbol _ (show a.toNat % 4 * 16 + b.toNat / 16 < 64 by omega),
        value?_symbol _ (show b.toNat % 16 * 4 + c.toNat / 64 < 64 by omega),
        value?_symbol _ (show c.toNat % 64 < 64 by omega), Option.bind_eq_bind, Option.bind_some, full]
      rw [ofNat_eq (b := a) (by omega), ofNat_eq (b := b) (by omega), ofNat_eq (b := c) (by omega)]
      rfl

theorem toNat_octet {n : Nat} (small : n < 256) : (UInt8.ofNat n).toNat = n :=
  UInt8.toNat_ofNat_of_lt' small

theorem encodeChars_of_decodeChars? {chars : List Char} {bytes : Bytes}
    (decodes : decodeChars? chars = some bytes) : encodeChars bytes = chars := by
  fun_induction decodeChars? chars generalizing bytes with
  | case1 =>
      cases decodes
      rfl
  | case2 a b =>
      simp only [Option.bind_eq_bind, Option.bind_eq_some_iff, lastOne?] at decodes
      obtain ⟨p, first, q, second, decodes⟩ := decodes
      obtain ⟨_, rfl⟩ := symbol_of_value? first
      obtain ⟨_, rfl⟩ := symbol_of_value? second
      split at decodes
      next unused =>
        cases decodes
        rw [encodeChars, toNat_octet (by omega), show (p * 4 + q / 16) / 4 = p by omega,
          show (p * 4 + q / 16) % 4 * 16 = q by omega]
      next => cases decodes
  | case3 a b c =>
      simp only [Option.bind_eq_bind, Option.bind_eq_some_iff, lastTwo?] at decodes
      obtain ⟨p, first, q, second, r, third, decodes⟩ := decodes
      obtain ⟨_, rfl⟩ := symbol_of_value? first
      obtain ⟨_, rfl⟩ := symbol_of_value? second
      obtain ⟨_, rfl⟩ := symbol_of_value? third
      split at decodes
      next unused =>
        cases decodes
        rw [encodeChars, toNat_octet (n := p * 4 + q / 16) (by omega), toNat_octet (by omega),
          show (p * 4 + q / 16) / 4 = p by omega,
          show (p * 4 + q / 16) % 4 * 16 + (q % 16 * 16 + r / 4) / 16 = q by omega,
          show (q % 16 * 16 + r / 4) % 16 * 4 = r by omega]
      next => cases decodes
  | case4 a b c d rest _ _ ih =>
      simp only [Option.bind_eq_bind, Option.bind_eq_some_iff, full] at decodes
      obtain ⟨p, first, q, second, r, third, s, fourth, octets, others, decodes⟩ := decodes
      obtain ⟨_, rfl⟩ := symbol_of_value? first
      obtain ⟨_, rfl⟩ := symbol_of_value? second
      obtain ⟨_, rfl⟩ := symbol_of_value? third
      obtain ⟨_, rfl⟩ := symbol_of_value? fourth
      cases decodes
      simp only [List.cons_append, List.nil_append, encodeChars, group]
      rw [ih others, toNat_octet (n := p * 4 + q / 16) (by omega),
        toNat_octet (n := q % 16 * 16 + r / 4) (by omega), toNat_octet (by omega),
        show (p * 4 + q / 16) / 4 = p by omega,
        show (p * 4 + q / 16) % 4 * 16 + (q % 16 * 16 + r / 4) / 16 = q by omega,
        show (q % 16 * 16 + r / 4) % 16 * 4 + (r % 4 * 64 + s) / 64 = r by omega,
        show (r % 4 * 64 + s) % 64 = s by omega]
  | case5 => cases decodes

/-- A text is the written form of a byte string exactly if it is read as that. -/
theorem decode?_eq_some_iff {text : String} {bytes : Bytes} :
    decode? text = some bytes ↔ encode bytes = text := by
  constructor
  · intro decodes
    rw [encode, encodeChars_of_decodeChars? decodes, String.ofList_toList]
  · rintro rfl
    rw [decode?, encode, String.toList_ofList, decodeChars?_encodeChars]

end Wiretap.Text.Base64
