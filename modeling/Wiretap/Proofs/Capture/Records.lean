import Wiretap.Proofs.Json.ReadingBack
import Wiretap.Proofs.Text.Base64
/-! # Records there and back

A record is read back from its line, and the line has no newline in it. The data of a record are the
written form of what they are decoded to, and of nothing else.
-/

namespace Wiretap.CaptureRecord

open Json

variable {r : CaptureRecord} {rest : Bytes}

/-! ## Data -/

theorem decode_eq_ok_iff {chunk : Bytes} : r.decode = .ok chunk ↔ Text.Base64.encode chunk = r.data := by
  rw [← Text.Base64.decode?_eq_some_iff, decode]
  cases Text.Base64.decode? r.data <;> simp

/-! ## Values -/

/-- The value of a key as it is written. -/
def written (r : CaptureRecord) : Key → Bytes
  | .timestamp => Json.string r.timestamp
  | .sessionId => Json.string r.sessionId
  | .localPort => digits r.localPort.toNat
  | .direction => Json.string r.direction.name
  | .length => digits r.length
  | .data => Json.string r.data

/-- A draft with the value of one more key. -/
def put (r : CaptureRecord) (d : Draft) : Key → Draft
  | .timestamp => { d with timestamp := some r.timestamp }
  | .sessionId => { d with sessionId := some r.sessionId }
  | .localPort => { d with localPort := some r.localPort }
  | .direction => { d with direction := some r.direction }
  | .length => { d with length := some r.length }
  | .data => { d with data := some r.data }

theorem entries_eq (r : CaptureRecord) : r.entries = Key.all.map fun k => key k.name ++ r.written k := rfl

theorem holds_put_of_ne {j k : Key} (other : j ≠ k) (d : Draft) : (put r d k).holds j = d.holds j := by
  cases k <;> cases j <;> first | rfl | exact (other rfl).elim

theorem readDirection_name (direction : Direction) (rest : Bytes) :
    readDirection (Json.string direction.name ++ rest) = .ok (direction, rest) := by
  rw [string_append, readDirection, skipSpace_of_token rfl]
  simp only [beq_self_eq_true, if_true, stringRest_string, bind, Except.bind]
  cases direction <;> rfl

/-- The value of a key is read back. -/
theorem read_written (fits : r.length ≤ Number.maxWord) (d : Draft) (k : Key) {b : UInt8}
    (ends : b = 44 ∨ b = 125) (rest : Bytes) :
    d.read k (r.written k ++ b :: rest) = .ok (put r d k, b :: rest) := by
  cases k with
  | timestamp | sessionId | data =>
      simp only [written, Draft.read, text_string, bind, Except.bind]
      rfl
  | localPort =>
      have port := r.localPort.toNat_lt
      have small : r.localPort.toNat ≤ 65535 := Nat.le_of_lt_succ port
      have back : r.localPort.toNat.toUInt16 = r.localPort := UInt16.ofNat_toNat
      simp only [written, Draft.read, bind, Except.bind, back,
        unsigned_digits small (Nat.le_trans small (by decide)) ends]
      rfl
  | direction =>
      simp only [written, Draft.read, readDirection_name, bind, Except.bind]
      rfl
  | length =>
      have within : r.length ≤ Word.count64 - 1 := fits
      simp only [written, Draft.read, bind, Except.bind, unsigned_digits within fits ends]
      rfl

/-! ## Tables -/

def comma : Bool → Bytes
  | true => []
  | false => [44]

theorem nextKey_string (isFirst : Bool) (name : String) (rest : Bytes) :
    nextKey isFirst (comma isFirst ++ (Json.string name ++ rest)) = .ok (some (name, rest)) := by
  rw [string_append]
  cases isFirst with
  | true =>
      rw [comma, List.nil_append, nextKey, skipSpace_of_token rfl]
      simp only [stringRest_string]
      rfl
  | false =>
      rw [comma, List.singleton_append, nextKey, skipSpace_of_token rfl]
      simp only [skipSpace_of_token (show isSpace 34 = false from rfl), stringRest_string]
      rfl

theorem ofName?_name (k : Key) : Key.ofName? k.name = some k := by
  cases k <;> decide

def entry (r : CaptureRecord) (k : Key) : Bytes := key k.name ++ r.written k

theorem readTable_entry (fits : r.length ≤ Number.maxWord) (n : Nat) (isFirst : Bool) {d : Draft} {k : Key}
    (missing : d.holds k = false) {b : UInt8} (ends : b = 44 ∨ b = 125) (rest : Bytes) :
    readTable (n + 1) isFirst d (comma isFirst ++ (r.entry k ++ b :: rest)) =
      readTable n false (put r d k) (b :: rest) := by
  have colon (more : Bytes) : mark ':' ([code ':'] ++ more) = .ok more := rfl
  rw [entry, key, List.append_assoc, List.append_assoc, readTable, nextKey_string]
  simp only [bind, Except.bind, ofName?_name, missing, colon, read_written fits d k ends rest]
  rfl

/-- The entries of a table behind the first. -/
def others (r : CaptureRecord) (ks : List Key) : Bytes := ks.flatMap fun k => comma false ++ r.entry k

theorem others_begins (r : CaptureRecord) (ks : List Key) (rest : Bytes) :
    ∃ b more, r.others ks ++ 125 :: rest = b :: more ∧ (b = 44 ∨ b = 125) := by
  cases ks with
  | nil => exact ⟨125, rest, rfl, .inr rfl⟩
  | cons k ks => exact ⟨44, _, rfl, .inl rfl⟩

theorem readTable_others (fits : r.length ≤ Number.maxWord) {n : Nat} {d : Draft} {ks : List Key}
    (distinct : ks.Nodup) (missing : ∀ k ∈ ks, d.holds k = false) (enough : ks.length < n) (rest : Bytes) :
    readTable n false d (r.others ks ++ 125 :: rest) = .ok (ks.foldl (put r) d, 125 :: rest) := by
  induction ks generalizing n d with
  | nil =>
      obtain ⟨n, rfl⟩ := Nat.exists_eq_succ_of_ne_zero (Nat.ne_of_gt enough)
      rfl
  | cons k ks ih =>
      obtain ⟨n, rfl⟩ := Nat.exists_eq_succ_of_ne_zero (Nat.ne_of_gt (Nat.zero_lt_of_lt enough))
      obtain ⟨apart, distinct⟩ := List.nodup_cons.mp distinct
      obtain ⟨b, more, begins, ends⟩ := r.others_begins ks rest
      have step := readTable_entry fits n false (missing k List.mem_cons_self) ends more
      rw [← begins] at step
      rw [others, List.flatMap_cons, List.append_assoc, List.append_assoc]
      refine step.trans (ih distinct (fun j member => ?_) (Nat.lt_of_succ_lt_succ enough))
      rw [holds_put_of_ne (fun same : j = k => apart (same ▸ member))]
      exact missing j (List.mem_cons_of_mem k member)

theorem length_le_others (r : CaptureRecord) (ks : List Key) : ks.length ≤ (r.others ks).length := by
  induction ks with
  | nil => exact Nat.le_refl 0
  | cons k ks ih =>
      simp only [others, comma, List.flatMap_cons, List.length_append, List.length_cons] at ih ⊢
      omega

/-- A record as a line: a table of all keys in their order. -/
theorem toLine_eq (r : CaptureRecord) : r.toLine =
    123 :: (r.entry .timestamp ++ (r.others Key.all.tail ++ [125])) := by
  simp [toLine, entries_eq, Key.all, others, comma, entry, List.intercalate, List.intersperse]
  exact ⟨rfl, rfl, rfl⟩

theorem readTable_toLine (fits : r.length ≤ Number.maxWord) {n : Nat} (enough : Key.all.length ≤ n) :
    readTable (n + 1) true {} (r.entry .timestamp ++ (r.others Key.all.tail ++ [125])) =
      .ok (Key.all.foldl (put r) {}, [125]) := by
  have missing : ∀ k ∈ Key.all.tail, (put r {} .timestamp).holds k = false := fun k member => by
    rw [holds_put_of_ne (by rintro rfl; simp [Key.all] at member)]
    cases k <;> rfl
  obtain ⟨b, more, begins, ends⟩ := r.others_begins Key.all.tail []
  have first := readTable_entry fits n true (d := {}) (k := .timestamp) rfl ends more
  rw [← begins] at first
  exact first.trans (readTable_others fits (by decide) missing enough [])

/-- A record is read back from its line. -/
theorem ofLine_toLine (fits : r.length ≤ Number.maxWord) : ofLine r.toLine = .ok r := by
  have enough : Key.all.length ≤ (r.entry .timestamp ++ (r.others Key.all.tail ++ [125])).length := by
    have others := r.length_le_others Key.all.tail
    simp only [List.length_append, Key.all, List.tail_cons, List.length_cons,
      List.length_nil] at others ⊢
    omega
  rw [toLine_eq, ofLine, skipSpace_of_token rfl]
  simp only [readTable_toLine fits enough, bind, Except.bind]
  rfl

theorem newline_notin_toLine (r : CaptureRecord) : 10 ∉ r.toLine := by
  have value (k : Key) : 10 ∉ r.written k := by
    cases k with
    | timestamp | sessionId | direction | data => exact newline_notin_string _
    | localPort | length => exact newline_notin_digits _
  have entry (k : Key) : 10 ∉ r.entry k := by
    have name := newline_notin_string k.name
    simp [CaptureRecord.entry, key, name, value]
    decide
  have others : 10 ∉ r.others Key.all.tail := by
    simp [CaptureRecord.others, comma, entry]
  rw [toLine_eq]
  simp [entry, others]

end Wiretap.CaptureRecord
