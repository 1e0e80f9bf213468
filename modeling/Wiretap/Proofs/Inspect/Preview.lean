import Mathlib.Data.List.Forall2
import Wiretap.Inspect.Station
import Wiretap.Text.Numeral
/-! # The preview of a chunk

A preview is read back from its digits alone: they stand in front of the first bar, since no digit is
one, whatever bars and spaces the text part holds. So different octets have different previews.
-/

namespace Wiretap

namespace Text

variable {b : UInt8} {bytes : Bytes} {c : Char}

/-! ## Digits -/

theorem hexDigit?_hexDigit : ∀ n < 16, hexDigit? (hexDigit n) = some n := by decide +kernel

/-- A character that can stand in a line of ASCII text. -/
def IsPrintable (c : Char) : Prop := ' ' ≤ c ∧ c ≤ '~'

instance : DecidablePred IsPrintable := fun _ => inferInstanceAs (Decidable (_ ∧ _))

/-- A digit is neither of the separators. -/
theorem hexDigit_plain : ∀ n < 16, IsPrintable (hexDigit n) ∧ hexDigit n ≠ ' ' ∧ hexDigit n ≠ '|' := by
  decide +kernel

theorem exists_digit_of_mem_hexByte (member : c ∈ hexByte b) : ∃ n < 16, c = hexDigit n := by
  have small := b.toNat_lt
  rw [hexByte, List.mem_cons, List.mem_singleton] at member
  rcases member with rfl | rfl
  · exact ⟨b.toNat / 16, by omega, rfl⟩
  · exact ⟨b.toNat % 16, by omega, rfl⟩

theorem hexPairs_cons (b : UInt8) (bytes : Bytes) :
    hexPairs (b :: bytes) = hexByte b ++ bytes.flatMap (' ' :: hexByte ·) := by
  induction bytes generalizing b with
  | nil => exact (List.append_nil _).symm
  | cons next bytes ih =>
      have split : hexPairs (b :: next :: bytes) = hexByte b ++ ' ' :: hexPairs (next :: bytes) := by
        simp [hexPairs, List.intercalate_cons_cons]
      rw [split, ih, List.flatMap_cons, List.cons_append]

theorem mem_hexPairs (member : c ∈ hexPairs bytes) : c = ' ' ∨ ∃ n < 16, c = hexDigit n := by
  cases bytes with
  | nil => cases member
  | cons b bytes =>
      rw [hexPairs_cons, List.mem_append, List.mem_flatMap] at member
      rcases member with digit | ⟨other, _, behind⟩
      · exact .inr (exists_digit_of_mem_hexByte digit)
      · rcases List.mem_cons.mp behind with space | digit
        · exact .inl space
        · exact .inr (exists_digit_of_mem_hexByte digit)

theorem bar_not_mem_hexPairs (bytes : Bytes) : '|' ∉ hexPairs bytes := by
  intro member
  rcases mem_hexPairs member with space | ⟨n, small, digit⟩
  · exact absurd space (by decide)
  · exact (hexDigit_plain n small).2.2 digit.symm

/-! ## The two parts of a preview -/

/-- Whether a character shows an octet: as itself where it is printable ASCII, else as a dot. -/
def Shows (c : Char) (b : UInt8) : Prop :=
  if 0x20 ≤ b.toNat ∧ b.toNat ≤ 0x7E then c.toNat = b.toNat else c = '.'

instance (c : Char) (b : UInt8) : Decidable (Shows c b) :=
  inferInstanceAs
    (Decidable (if 0x20 ≤ b.toNat ∧ b.toNat ≤ 0x7E then c.toNat = b.toNat else c = '.'))

theorem shows_previewChar (b : UInt8) : Shows (previewChar b) b ∧ IsPrintable (previewChar b) := by
  have all : ∀ n < 256, Shows (previewChar (.ofNat n)) (.ofNat n) ∧
      IsPrintable (previewChar (.ofNat n)) := by decide +kernel
  have this := all b.toNat b.toNat_lt
  rwa [UInt8.ofNat_toNat] at this

/-- The hexadecimal part of a preview: what is in front of the first bar and its space. -/
def digitPart (preview : String) : List Char := (preview.toList.takeWhile (· ≠ '|')).dropLast

/-- The text part of a preview: what is between the first bar and the last character. -/
def textPart (preview : String) : List Char := ((preview.toList.dropWhile (· ≠ '|')).drop 1).dropLast

theorem toList_hexPreview (bytes : Bytes) :
    (hexPreview bytes).toList =
      (hexPairs bytes ++ [' ']) ++ '|' :: (bytes.map previewChar ++ ['|']) := by
  simp [hexPreview, String.toList_ofList]

theorem ne_bar_of_mem_digits (member : c ∈ hexPairs bytes ++ [' ']) : decide (c ≠ '|') = true := by
  rw [decide_eq_true_eq]
  rintro rfl
  rcases List.mem_append.mp member with digit | space
  · exact bar_not_mem_hexPairs bytes digit
  · exact absurd (List.mem_singleton.mp space) (by decide)

theorem digitPart_hexPreview (bytes : Bytes) : digitPart (hexPreview bytes) = hexPairs bytes := by
  have bar : ('|' :: (bytes.map previewChar ++ ['|'])).takeWhile (· ≠ '|') = [] := rfl
  rw [digitPart, toList_hexPreview, List.takeWhile_append_of_pos fun _ => ne_bar_of_mem_digits, bar,
    List.append_nil, List.dropLast_concat]

theorem textPart_hexPreview (bytes : Bytes) :
    textPart (hexPreview bytes) = bytes.map previewChar := by
  have bar : ('|' :: (bytes.map previewChar ++ ['|'])).dropWhile (· ≠ '|') =
      '|' :: (bytes.map previewChar ++ ['|']) := rfl
  rw [textPart, toList_hexPreview, List.dropWhile_append_of_pos fun _ => ne_bar_of_mem_digits, bar,
    List.drop_succ_cons, List.drop_zero, List.dropLast_concat]

theorem isPrintable_of_mem_hexPreview (member : c ∈ (hexPreview bytes).toList) : IsPrintable c := by
  simp only [toList_hexPreview, List.mem_append, List.mem_cons, List.mem_map, List.not_mem_nil,
    or_false] at member
  rcases member with (digit | rfl) | rfl | ⟨b, _, rfl⟩ | rfl
  · rcases mem_hexPairs digit with rfl | ⟨n, small, rfl⟩
    · decide
    · exact (hexDigit_plain n small).1
  · decide
  · decide
  · exact (shows_previewChar b).2
  · decide

/-! ## Reading previews -/

def octet? : List Char → Option UInt8
  | [high, low] => do return .ofNat ((← hexDigit? high) * 16 + (← hexDigit? low))
  | _ => none

/-- The octets of digit pairs that are separated by single spaces. -/
def octets? (digits : List Char) : Option Bytes :=
  if digits = [] then some [] else (digits.splitOn ' ').mapM octet?

theorem octet?_hexByte (b : UInt8) : octet? (hexByte b) = some b := by
  have small := b.toNat_lt
  simp only [octet?, hexByte, hexDigit?_hexDigit _ (show b.toNat / 16 < 16 by omega),
    hexDigit?_hexDigit _ (show b.toNat % 16 < 16 by omega), Option.bind_eq_bind, Option.bind_some]
  rw [Nat.div_add_mod', UInt8.ofNat_toNat]
  rfl

theorem octets?_hexPairs (bytes : Bytes) : octets? (hexPairs bytes) = some bytes := by
  cases bytes with
  | nil => rfl
  | cons b bytes =>
      have some_ : hexPairs (b :: bytes) ≠ [] := by simp [hexPairs_cons, hexByte]
      have apart : ∀ digits ∈ (b :: bytes).map hexByte, ' ' ∉ digits := by
        intro digits member space
        obtain ⟨b, _, rfl⟩ := List.mem_map.mp member
        obtain ⟨n, small, digit⟩ := exists_digit_of_mem_hexByte space
        exact (hexDigit_plain n small).2.1 digit.symm
      rw [octets?, if_neg some_, hexPairs, List.splitOn_intercalate ' ' apart (by simp)]
      have all (bytes : Bytes) : (bytes.map hexByte).mapM octet? = some bytes := by
        induction bytes with
        | nil => rfl
        | cons b bytes ih => simp [List.mapM_cons, octet?_hexByte, ih]
      exact all (b :: bytes)

theorem octets?_digitPart_hexPreview (bytes : Bytes) :
    octets? (digitPart (hexPreview bytes)) = some bytes := by
  rw [digitPart_hexPreview, octets?_hexPairs]

theorem hexPreview_injective : hexPreview.Injective := by
  intro a b same
  have read := congrArg (octets? ∘ digitPart) same
  simpa [octets?_digitPart_hexPreview] using read

/-- Spaces and bars of the traffic stand in the text part as they are. -/
example : hexPreview [0x7C, 0x20, 0xFF] = "7c 20 ff || .|" := by decide

end Text

namespace Station

open Text

/-- The inspector of previews makes one entry for a chunk and does nothing else. The entry shows as many
of the first octets as are asked for and are there, and tells whether any are left out. A preview is
one line of printable ASCII; the octets are read back from its digits, so that no two byte strings look
alike, and each octet has one character in the text part. -/
theorem preview_faithful (s : Station) (serial limit : Nat) (e : Event) (delivered : Nat) :
    let r := s.run ⟨.preview limit, serial⟩ e delivered
    let shown := min e.chunk.length limit
    (∃ entry, r = ⟨.returned .accepted, false, s.log entry⟩ ∧ entry.level = .debug ∧
      entry.message = "[" ++ e.direction.name ++ "] " ++ hexPreview (e.chunk.take shown) ∧
      (e.chunk.take shown).length = shown ∧
      (∀ c ∈ entry.message.toList, IsPrintable c) ∧
      entry.fields.lookup "len" = some (.number e.chunk.length) ∧
      ∃ truncated, entry.fields.lookup "truncated" = some (.flag truncated) ∧
        (truncated = true ↔ limit < e.chunk.length)) ∧
    ∀ bytes, (∀ c ∈ (hexPreview bytes).toList, IsPrintable c) ∧
      octets? (digitPart (hexPreview bytes)) = some bytes ∧
      (∀ other, hexPreview bytes = hexPreview other ↔ bytes = other) ∧
      List.Forall₂ Shows (textPart (hexPreview bytes)) bytes := by
  intro r shown
  have leftOut : shown < e.chunk.length ↔ limit < e.chunk.length := by omega
  refine ⟨⟨previewEntry limit e, rfl, rfl, rfl, ?_, ?_, rfl, _, rfl,
    decide_eq_true_iff.trans leftOut⟩, fun bytes => ⟨fun _ => isPrintable_of_mem_hexPreview,
    octets?_digitPart_hexPreview bytes, fun _ => hexPreview_injective.eq_iff, ?_⟩⟩
  · rw [List.length_take]
    omega
  · intro c member
    have whole : (previewEntry limit e).message =
        "[" ++ e.direction.name ++ "] " ++ hexPreview (e.chunk.take shown) := rfl
    rw [whole, String.toList_append, List.mem_append] at member
    rcases member with head | preview
    · have plain : ("[" ++ e.direction.name ++ "] ").toList.all (decide <| IsPrintable ·) = true := by
        cases e.direction <;> decide
      exact of_decide_eq_true (List.all_eq_true.mp plain c head)
    · exact isPrintable_of_mem_hexPreview preview
  · rw [textPart_hexPreview, List.forall₂_map_left_iff, List.forall₂_same]
    exact fun b _ => (shows_previewChar b).1

end Station

end Wiretap
