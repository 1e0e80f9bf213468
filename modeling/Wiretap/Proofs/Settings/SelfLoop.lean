import Mathlib.Data.List.Forall2
import Wiretap.Proofs.Settings.Validity
/-! # Relays that would forward to themselves

No relay of valid settings forwards to its own listening address as the addresses are written:
neither to the bind address, nor to a local address or `localhost` while it is bound to a local one.
An IPv4 address can also be written as an IPv6 one, which reaches the same host. The rule does not
see through that notation, so a relay can still reach itself by it (`reaches_itself_mapped`), but in
no other way (`self_loops_are_mapped`).
-/

namespace Wiretap

/-- A word in lower case letters, written with letters of either case. -/
def Text.Spells (text word : List Char) : Prop :=
  List.Forall₂ (fun c letter => c = letter ∨ c = letter.toUpper) text word

theorem Text.Spells.all_eq_true {text word : List Char} {p : Char → Bool} (h : Spells text word)
    (letters : word.all (fun c => p c && p c.toUpper) = true) : text.all p = true := by
  unfold Spells at h
  induction h with
  | nil => rfl
  | cons same _ ih =>
      rw [List.all_cons, Bool.and_eq_true, Bool.and_eq_true] at letters
      obtain ⟨⟨lower, upper⟩, more⟩ := letters
      rw [List.all_cons, ih more, Bool.and_true]
      rcases same with rfl | rfl
      · exact lower
      · exact upper

theorem Text.Spells.map_eq {text word : List Char} {f : Char → Char} (h : Spells text word)
    (letters : word.map (fun c => f c.toUpper) = word.map f) : text.map f = word.map f := by
  unfold Spells at h
  induction h with
  | nil => rfl
  | cons same _ ih =>
      obtain ⟨letter, more⟩ := List.cons.inj letters
      rw [List.map_cons, List.map_cons, ih more]
      rcases same with rfl | rfl
      · rfl
      · exact congrArg (· :: _) letter

namespace IpAddress

deriving instance ReflBEq, LawfulBEq for IpAddress

def mapped (a b c d : UInt8) : IpAddress :=
  .v6 #v[0, 0, 0, 0, 0, 0xffff, a.toUInt16 * 256 + b.toUInt16, c.toUInt16 * 256 + d.toUInt16]

def IsMapped (ip : IpAddress) : Prop := ∃ a b c d, ip = mapped a b c d

/-- The host that is reached by an address. -/
inductive Reaches : IpAddress → IpAddress → Prop where
  | asWritten {ip : IpAddress} (plain : ¬ip.IsMapped) : Reaches ip ip
  | mapped (a b c d : UInt8) : Reaches (mapped a b c d) (.v4 a b c d)

variable {ip other host : IpAddress}

theorem Reaches.eq_of_plain (h : ip.Reaches host) (plain : ¬ip.IsMapped) : host = ip := by
  cases h with
  | asWritten => rfl
  | mapped a b c d => exact absurd ⟨a, b, c, d, rfl⟩ plain

/-- Two addresses of one host in the same notation are the same. -/
theorem Reaches.unique (h : ip.Reaches host) (also : other.Reaches host)
    (alike : ip.IsMapped ↔ other.IsMapped) : ip = other := by
  cases h with
  | asWritten plain =>
      cases also with
      | asWritten => rfl
      | mapped a b c d => exact absurd (alike.mpr ⟨a, b, c, d, rfl⟩) plain
  | mapped a b c d =>
      cases also with
      | asWritten plain => exact absurd (alike.mp ⟨a, b, c, d, rfl⟩) plain
      | mapped => rfl

/-- An address begins with a digit or a colon. -/
theorem ofText?_eq_none {text : String} {c : Char} {rest : List Char}
    (begins : text.toList = c :: rest) (digit : Text.digit? c = none)
    (hexDigit : Text.hexDigit? c = none) (colon : c ≠ ':') : ofText? text = none := by
  have octet : Notation.octet (c :: rest) = none := by simp [Notation.octet, Notation.digitRun, digit]
  have group : Notation.group (c :: rest) = none := by
    simp [Notation.group, Notation.digitRun, hexDigit]
  have ipv4 : Notation.ipv4 (c :: rest) = none := by simp [Notation.ipv4, octet]
  have row : Notation.groupRow 8 true (c :: rest) = (⟨[], false⟩, c :: rest) := by
    simp [Notation.groupRow, Notation.separated, ipv4, group]
  simp [ofText?, Notation.complete, begins, Notation.hostV4, ipv4, Notation.ipv6, row,
    Notation.char, colon]

end IpAddress

theorem Text.lowerAscii_eq_l {c : Char} (h : Text.lowerAscii c = 'l') : c = 'l' ∨ c = 'L' := by
  rw [Text.lowerAscii] at h
  split at h
  next upper =>
    have last : c.toNat ≤ 90 :=
      UInt32.le_iff_toNat_le.mp (of_decide_eq_true (Bool.and_eq_true_iff.mp upper).2)
    have only : ∀ n < 91, Char.ofNat (n + 32) = 'l' → n = 'L'.toNat := by decide
    exact .inr (Char.toNat_inj.mp (only c.toNat (by omega) h))
  next => exact .inl h

/-- The name of this host is not an address. -/
theorem IpAddress.ofText?_of_localhost {text : String}
    (named : Text.sameIgnoringAsciiCase text "localhost" = true) : ofText? text = none := by
  rw [Text.sameIgnoringAsciiCase, beq_iff_eq] at named
  obtain ⟨c, rest, begins, first, _⟩ := List.map_eq_cons_iff.mp named
  rcases Text.lowerAscii_eq_l first with rfl | rfl
  · exact ofText?_eq_none begins (by decide) (by decide) (by decide)
  · exact ofText?_eq_none begins (by decide) (by decide) (by decide)

namespace Relay

variable {r : Relay}

theorem isSelfLoop_of_localhost (same : r.effectiveTargetPort = r.localPort)
    (named : Text.sameIgnoringAsciiCase (Text.trim r.targetHost) "localhost" = true) :
    r.isSelfLoop = isLocal r.bindAddress := by
  simp [isSelfLoop, same, named]

theorem isSelfLoop_of_address {ip : IpAddress} (same : r.effectiveTargetPort = r.localPort)
    (literal : IpAddress.ofText? (Text.trim r.targetHost) = some ip) :
    r.isSelfLoop = (ip == r.bindAddress || isLocal ip && isLocal r.bindAddress) := by
  have unnamed : Text.sameIgnoringAsciiCase (Text.trim r.targetHost) "localhost" = false := by
    refine Bool.eq_false_iff.mpr fun named => ?_
    rw [IpAddress.ofText?_of_localhost named] at literal
    cases literal
  simp [isSelfLoop, same, unnamed, literal]

/-- The name of this host with blank characters around it, in letters of either case. -/
theorem sameIgnoringAsciiCase_of_spells {host : String} {before name after : List Char}
    (whole : host.toList = before ++ name ++ after)
    (blank : ∀ c ∈ before ++ after, Text.isBlank c = true)
    (spells : Text.Spells name "localhost".toList) :
    Text.sameIgnoringAsciiCase (Text.trim host) "localhost" = true := by
  obtain ⟨blankBefore, blankAfter⟩ := List.forall_mem_append.mp blank
  have plain : ∀ c ∈ name, Text.isBlank c = false := by
    intro c member
    have all : name.all (!Text.isBlank ·) = true := spells.all_eq_true (by decide)
    exact (Bool.not_eq_true' _).mp (List.all_eq_true.mp all c member)
  have cased := spells.map_eq (f := Text.lowerAscii) (by decide)
  rw [Text.sameIgnoringAsciiCase, Text.trim, String.toList_ofList, whole,
    Text.trimChars_around blankBefore blankAfter plain, cased, beq_self_eq_true]

end Relay

namespace Settings

variable {s : Settings} {r : Relay}

/-- If a relay of valid settings reaches itself, its target or its bind address is the IPv6 notation
of an IPv4 address. It would reach itself at the bind address, and also at a local address or by the
name `localhost` if it is bound to a local address. -/
theorem self_loops_are_mapped (valid : s.validate = .ok ()) (member : r ∈ s.relays)
    (same : r.effectiveTargetPort = r.localPort) :
    (∀ ip, IpAddress.ofText? (Text.trim r.targetHost) = some ip →
      (∀ host, ip.Reaches host → r.bindAddress.Reaches host →
        (ip.IsMapped ↔ ¬r.bindAddress.IsMapped)) ∧
      ∀ host own, ip.Reaches host → r.bindAddress.Reaches own →
        Relay.isLocal host = true → Relay.isLocal own = true →
          ip.IsMapped ∨ r.bindAddress.IsMapped) ∧
    ∀ before name after : List Char, r.targetHost.toList = before ++ name ++ after →
      (∀ c ∈ before ++ after, Text.isBlank c = true) → Text.Spells name "localhost".toList →
      Relay.isLocal r.bindAddress = false ∧
        ∀ own, r.bindAddress.Reaches own → Relay.isLocal own = true → r.bindAddress.IsMapped := by
  have sound := ((validate_eq_ok_iff.mp valid).relays_sound r member).not_selfLoop
  refine ⟨fun ip literal => ?_, fun before name after whole blank spells => ?_⟩
  · rw [Relay.isSelfLoop_of_address same literal, Bool.or_eq_false_iff, beq_eq_false_iff_ne,
      Bool.and_eq_false_iff] at sound
    obtain ⟨differ, apart⟩ := sound
    refine ⟨fun host reaches own => ?_, fun host own reaches reachesOwn isLocal ownIsLocal => ?_⟩
    · by_contra alike
      rw [not_iff, not_iff_not] at alike
      exact differ (reaches.unique own alike)
    · by_contra plain
      obtain ⟨target, bind⟩ := not_or.mp plain
      rw [reaches.eq_of_plain target] at isLocal
      rw [reachesOwn.eq_of_plain bind] at ownIsLocal
      rcases apart with foreign | foreign
      · exact Bool.eq_false_iff.mp foreign isLocal
      · exact Bool.eq_false_iff.mp foreign ownIsLocal
  · have named := Relay.sameIgnoringAsciiCase_of_spells whole blank spells
    rw [Relay.isSelfLoop_of_localhost same named] at sound
    refine ⟨sound, fun own reaches isLocal => ?_⟩
    by_contra plain
    rw [reaches.eq_of_plain plain] at isLocal
    exact Bool.eq_false_iff.mp sound isLocal

/-- Bound to one address only, relays forward to the same number of this host. -/
theorem self_loops_are_mapped_split :
    let own : IpAddress := .v4 10 0 0 2
    let a : Relay := { Relay.atPort 1 with bindAddress := own, targetHost := " 127.0.0.1" }
    let b : Relay := { Relay.atPort 2 with bindAddress := own, targetHost := "\tLocalHost " }
    let s : Settings := { standard with relays := [a, b] }
    s.validate = .ok () ∧ (a ∈ s.relays ∧ a.effectiveTargetPort = a.localPort ∧
      ¬own.Reaches (.v4 127 0 0 1)) ∧
      b ∈ s.relays ∧ b.effectiveTargetPort = b.localPort ∧ Relay.isLocal own = false := by
  intro own a b s
  have valid : s.validate = .ok () := by decide +kernel
  have literal : IpAddress.ofText? (Text.trim a.targetHost) = some (.v4 127 0 0 1) := by
    decide +kernel
  have plain (w x y z : UInt8) : ¬(IpAddress.v4 w x y z).IsMapped := by
    rintro ⟨_, _, _, _, eq⟩
    cases eq
  obtain ⟨address, _⟩ := self_loops_are_mapped valid (r := a) (by simp [s]) rfl
  obtain ⟨_, name⟩ := self_loops_are_mapped valid (r := b) (by simp [s]) rfl
  refine ⟨valid, ⟨by simp [s], rfl, fun reaches => ?_⟩, by simp [s], rfl, ?_⟩
  · have apart := (address _ literal).1 _ (.asWritten (plain _ _ _ _)) reaches
    exact plain _ _ _ _ (apart.mpr (plain _ _ _ _))
  · have spells : Text.Spells "LocalHost".toList "localhost".toList := by
      simp only [Text.Spells, List.forall₂_cons, String.reduceToList]
      decide
    have blank : ∀ c ∈ ['\t'] ++ [' '], Text.isBlank c = true := by
      intro c member
      rcases List.mem_pair.mp member with rfl | rfl <;> rfl
    exact (name ['\t'] _ [' '] (by decide) blank spells).1

/-- A relay on every address of this host reaches itself by the IPv6 notation of a loopback address,
and its settings are valid. -/
theorem reaches_itself_mapped :
    ¬∀ (s : Settings) (r : Relay) (ip : IpAddress), s.validate = .ok () → r ∈ s.relays →
      r.effectiveTargetPort = r.localPort →
      IpAddress.ofText? (Text.trim r.targetHost) = some ip →
      (∀ host, ip.Reaches host → ¬r.bindAddress.Reaches host) ∧
      ∀ host own, ip.Reaches host → r.bindAddress.Reaches own →
        Relay.isLocal host = true → Relay.isLocal own = false := by
  intro claimed
  let r : Relay := { Relay.atPort 3001 with targetHost := "::ffff:127.0.0.1" }
  have valid : ({ standard with relays := [r] } : Settings).validate = .ok () := by decide +kernel
  have literal : IpAddress.ofText? (Text.trim r.targetHost) = some (.mapped 127 0 0 1) := by
    decide +kernel
  have bind : IpAddress.anyV4.Reaches .anyV4 := by
    refine .asWritten ?_
    rintro ⟨_, _, _, _, eq⟩
    cases eq
  obtain ⟨_, apart⟩ := claimed _ r _ valid List.mem_cons_self rfl literal
  have := apart _ _ (.mapped 127 0 0 1) bind rfl
  cases this

end Settings

end Wiretap
