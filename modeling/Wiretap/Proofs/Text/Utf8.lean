import Wiretap.Text.Utf8
/-! # Which bytes are UTF-8

The looking for faults agrees with the UTF-8 form of texts: bytes have no fault exactly if they are the
form of a text, and of one only.
-/

namespace Wiretap

namespace Bytes

theorem ofText_ofList (chars : List Char) :
    ofText (String.ofList chars) = chars.flatMap String.utf8EncodeChar := by
  simp [ofText, List.utf8Encode]

theorem ofText_eq_flatMap (text : String) :
    ofText text = text.toList.flatMap String.utf8EncodeChar := by
  rw [← ofText_ofList, String.ofList_toList]

theorem ofText_append (a b : String) : ofText (a ++ b) = ofText a ++ ofText b := by
  simp [ofText]

@[simp] theorem toText?_ofText (text : String) : toText? (ofText text) = some text := by
  have same : (⟨(ofText text).toArray⟩ : ByteArray) = text.toByteArray := rfl
  rw [toText?, same, String.fromUTF8?, dif_pos text.isValidUTF8]
  rfl

end Bytes

namespace Text

variable {b c : UInt8} {rest : Bytes} {size : Nat}

/-- An octet that may come second in a character, by the first one. -/
def Follows (b c : UInt8) : Prop :=
  0x80 ≤ c.toNat ∧ c.toNat ≤ 0xBF ∧ (b.toNat = 0xE0 → 0xA0 ≤ c.toNat) ∧
    (b.toNat = 0xED → c.toNat ≤ 0x9F) ∧ (b.toNat = 0xF0 → 0x90 ≤ c.toNat) ∧
    (b.toNat = 0xF4 → c.toNat ≤ 0x8F)

/-- An octet that may come third or fourth. -/
def Continues (b : UInt8) : Prop := 0x80 ≤ b.toNat ∧ b.toNat ≤ 0xBF

/-- What begins with a character, and of how many octets. -/
inductive Begins : UInt8 → Bytes → Nat → Prop where
  | one {b : UInt8} {rest : Bytes} : b.toNat < 0x80 → Begins b rest 1
  | two {b c : UInt8} {rest : Bytes} :
      0xC2 ≤ b.toNat → b.toNat < 0xE0 → Follows b c → Begins b (c :: rest) 2
  | three {b c d : UInt8} {rest : Bytes} :
      0xE0 ≤ b.toNat → b.toNat < 0xF0 → Follows b c → Continues d → Begins b (c :: d :: rest) 3
  | four {b c d e : UInt8} {rest : Bytes} :
      0xF0 ≤ b.toNat → b.toNat < 0xF5 → Follows b c → Continues d → Continues e →
        Begins b (c :: d :: e :: rest) 4

theorem isContinuation_iff : isContinuation b ↔ Continues b := by
  simp [isContinuation, Continues, UInt8.le_iff_toNat_le]

theorem secondRange_iff : ((secondRange b).1 ≤ c && c ≤ (secondRange b).2) = true ↔ Follows b c := by
  simp only [Bool.and_eq_true, decide_eq_true_eq, UInt8.le_iff_toNat_le, Follows, secondRange, beq_iff_eq,
    ← UInt8.toNat_inj, UInt8.reduceToNat]
  repeat' split
  all_goals simp only [UInt8.reduceToNat]; omega

theorem width_cases (b : UInt8) :
    (width b = 1 ∧ b.toNat < 0x80) ∨ (width b = 2 ∧ 0xC2 ≤ b.toNat ∧ b.toNat < 0xE0) ∨
      (width b = 3 ∧ 0xE0 ≤ b.toNat ∧ b.toNat < 0xF0) ∨
      (width b = 4 ∧ 0xF0 ≤ b.toNat ∧ b.toNat < 0xF5) ∨
      (width b = 0 ∧ ((0x80 ≤ b.toNat ∧ b.toNat < 0xC2) ∨ 0xF5 ≤ b.toNat)) := by
  simp only [width, UInt8.lt_iff_toNat_lt, UInt8.reduceToNat]
  repeat' split
  all_goals omega

theorem tail_self (size : Nat) (rest : Bytes) : tail size size rest = .char size := by
  rw [tail.eq_def]
  exact if_pos rfl

theorem tail_of_short {seen n : Nat} (short : seen ≠ size) : tail size seen rest = .char n ↔
    ∃ b more, rest = b :: more ∧ Continues b ∧ tail size (seen + 1) more = .char n := by
  rw [tail.eq_def]
  simp only [if_neg short]
  cases rest with
  | nil => simp
  | cons b more =>
      by_cases continues : isContinuation b
      · simp only [continues, if_true]
        constructor
        · exact fun char => ⟨b, more, rfl, isContinuation_iff.mp continues, char⟩
        · rintro ⟨_, _, ⟨⟩, _, char⟩
          exact char
      · simp [continues, mt isContinuation_iff.mpr continues]

theorem lead_of_wide {n : Nat} (wide : width b = n + 2) : lead b rest = .char size ↔
    ∃ c more, rest = c :: more ∧ Follows b c ∧ tail (n + 2) 2 more = .char size := by
  simp only [lead, wide]
  cases rest with
  | nil => simp
  | cons c more =>
      by_cases follows : ((secondRange b).1 ≤ c && c ≤ (secondRange b).2) = true
      · simp only [follows, if_true]
        constructor
        · exact fun char => ⟨c, more, rfl, secondRange_iff.mp follows, char⟩
        · rintro ⟨_, _, ⟨⟩, _, char⟩
          exact char
      · simp [follows, mt secondRange_iff.mpr follows]

theorem lead_eq_char_iff : lead b rest = .char size ↔ Begins b rest size := by
  constructor
  · intro char
    obtain ⟨w, low⟩ | ⟨w, low, high⟩ | ⟨w, low, high⟩ | ⟨w, low, high⟩ | ⟨w, _⟩ := width_cases b
    · simp only [lead, w, Lead.char.injEq] at char
      exact char ▸ .one low
    · obtain ⟨c, more, rfl, second, whole⟩ := (lead_of_wide w).mp char
      rw [tail_self] at whole
      cases whole
      exact .two low high second
    · obtain ⟨c, more, rfl, second, whole⟩ := (lead_of_wide w).mp char
      obtain ⟨d, more, rfl, third, whole⟩ := (tail_of_short (by decide)).mp whole
      rw [tail_self] at whole
      cases whole
      exact .three low high second third
    · obtain ⟨c, more, rfl, second, whole⟩ := (lead_of_wide w).mp char
      obtain ⟨d, more, rfl, third, whole⟩ := (tail_of_short (by decide)).mp whole
      obtain ⟨e, more, rfl, fourth, whole⟩ := (tail_of_short (by decide)).mp whole
      rw [tail_self] at whole
      cases whole
      exact .four low high second third fourth
    · simp [lead, w] at char
  · rintro begins
    have classes := width_cases b
    cases begins with
    | one low =>
        have w : width b = 1 := by omega
        simp only [lead, w]
    | two low high second =>
        have w : width b = 2 := by omega
        exact (lead_of_wide w).mpr ⟨_, _, rfl, second, tail_self 2 _⟩
    | three low high second third =>
        have w : width b = 3 := by omega
        exact (lead_of_wide w).mpr ⟨_, _, rfl, second,
          (tail_of_short (by decide)).mpr ⟨_, _, rfl, third, tail_self 3 _⟩⟩
    | four low high second third fourth =>
        have w : width b = 4 := by omega
        exact (lead_of_wide w).mpr ⟨_, _, rfl, second, (tail_of_short (by decide)).mpr
          ⟨_, _, rfl, third, (tail_of_short (by decide)).mpr ⟨_, _, rfl, fourth, tail_self 4 _⟩⟩⟩

theorem begins_encode (c : Char) (more : Bytes) : ∃ b rest, String.utf8EncodeChar c = b :: rest ∧
    Begins b (rest ++ more) (rest.length + 1) := by
  have valid : c.val.toNat < 0xd800 ∨ 0xdfff < c.val.toNat ∧ c.val.toNat < 0x110000 := c.valid
  fun_cases String.utf8EncodeChar c with
  | case1 v one =>
      refine ⟨_, _, rfl, .one ?_⟩
      simp
      omega
  | case2 v one two =>
      refine ⟨_, _, rfl, .two ?_ ?_ ?_⟩ <;> simp [Follows] <;> omega
  | case3 v one two three =>
      refine ⟨_, _, rfl, .three ?_ ?_ ?_ ?_⟩ <;> simp [Follows, Continues] <;> omega
  | case4 v one two three =>
      refine ⟨_, _, rfl, .four ?_ ?_ ?_ ?_ ?_⟩ <;> simp [Follows, Continues] <;> omega

theorem exists_char {v : Nat} (valid : v < 0xd800 ∨ 0xdfff < v ∧ v < 0x110000) :
    ∃ c : Char, c.val.toNat = v := by
  have same : (UInt32.ofNat v).toNat = v := UInt32.toNat_ofNat_of_lt' (by simp [UInt32.size]; omega)
  exact ⟨⟨UInt32.ofNat v, by rw [UInt32.isValidChar, same]; exact valid⟩, same⟩

theorem ofNat_eq {n : Nat} {b : UInt8} (same : n = b.toNat) : UInt8.ofNat n = b := by
  rw [same, UInt8.ofNat_toNat]

theorem Begins.encodes (begins : Begins b rest size) :
    ∃ c : Char, b :: rest = String.utf8EncodeChar c ++ rest.drop (size - 1) := by
  cases begins with
  | one low =>
      obtain ⟨ch, number⟩ := exists_char (v := b.toNat) (by omega)
      refine ⟨ch, ?_⟩
      rw [String.utf8EncodeChar, number, if_pos (by omega), ofNat_eq rfl]
      rfl
  | @two c rest low high second =>
      obtain ⟨_, _, _⟩ := second
      obtain ⟨ch, number⟩ := exists_char (v := (b.toNat - 0xC0) * 64 + (c.toNat - 0x80)) (by omega)
      refine ⟨ch, ?_⟩
      rw [String.utf8EncodeChar, number, if_neg (by omega), if_pos (by omega),
        ofNat_eq (b := b) (by omega), ofNat_eq (b := c) (by omega)]
      rfl
  | @three c d rest low high second third =>
      obtain ⟨_, _, e0, ed, _⟩ := second
      obtain ⟨_, _⟩ := third
      obtain ⟨ch, number⟩ := exists_char
        (v := (b.toNat - 0xE0) * 4096 + (c.toNat - 0x80) * 64 + (d.toNat - 0x80)) (by omega)
      refine ⟨ch, ?_⟩
      rw [String.utf8EncodeChar, number, if_neg (by omega), if_neg (by omega), if_pos (by omega),
        ofNat_eq (b := b) (by omega), ofNat_eq (b := c) (by omega), ofNat_eq (b := d) (by omega)]
      rfl
  | @four c d e rest low high second third fourth =>
      obtain ⟨_, _, _, _, f0, f4⟩ := second
      obtain ⟨_, _⟩ := third
      obtain ⟨_, _⟩ := fourth
      obtain ⟨ch, number⟩ := exists_char (v := (b.toNat - 0xF0) * 262144 + (c.toNat - 0x80) * 4096 +
        (d.toNat - 0x80) * 64 + (e.toNat - 0x80)) (by omega)
      refine ⟨ch, ?_⟩
      rw [String.utf8EncodeChar, number, if_neg (by omega), if_neg (by omega), if_neg (by omega),
        ofNat_eq (b := b) (by omega), ofNat_eq (b := c) (by omega), ofNat_eq (b := d) (by omega),
        ofNat_eq (b := e) (by omega)]
      rfl

theorem utf8FaultFrom_cons (index : Nat) (begins : Begins b rest size) :
    utf8FaultFrom index (b :: rest) = utf8FaultFrom (index + size) (rest.drop (size - 1)) := by
  rw [utf8FaultFrom, lead_eq_char_iff.mpr begins]

theorem utf8FaultFrom_encode (index : Nat) (chars : List Char) :
    utf8FaultFrom index (chars.flatMap String.utf8EncodeChar) = none := by
  induction chars generalizing index with
  | nil => simp [utf8FaultFrom]
  | cons c chars ih =>
      obtain ⟨b, rest, octets, begins⟩ := begins_encode c (chars.flatMap String.utf8EncodeChar)
      rw [List.flatMap_cons, octets, List.cons_append, utf8FaultFrom_cons index begins,
        Nat.add_sub_cancel, List.drop_left]
      exact ih _

theorem exists_chars_of_utf8FaultFrom {index : Nat} {bytes : Bytes}
    (fine : utf8FaultFrom index bytes = none) :
    ∃ chars : List Char, bytes = chars.flatMap String.utf8EncodeChar := by
  fun_induction utf8FaultFrom index bytes with
  | case1 => exact ⟨[], rfl⟩
  | case2 index b rest size char ih =>
      obtain ⟨chars, others⟩ := ih fine
      obtain ⟨c, octets⟩ := (lead_eq_char_iff.mp char).encodes
      exact ⟨c :: chars, by rw [octets, others, List.flatMap_cons]⟩
  | case3 => cases fine
  | case4 => cases fine

/-- Bytes have no fault exactly if they are the UTF-8 form of a text. -/
theorem utf8Fault?_eq_none_iff {bytes : Bytes} :
    utf8Fault? bytes = none ↔ ∃ text, Bytes.ofText text = bytes := by
  constructor
  · intro fine
    obtain ⟨chars, rfl⟩ := exists_chars_of_utf8FaultFrom fine
    exact ⟨String.ofList chars, Bytes.ofText_ofList chars⟩
  · rintro ⟨text, rfl⟩
    rw [utf8Fault?, Bytes.ofText_eq_flatMap]
    exact utf8FaultFrom_encode 0 _

end Text

end Wiretap
