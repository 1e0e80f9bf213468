import Mathlib.Data.List.Dedup
import Wiretap.Proofs.Counters.Answering
import Wiretap.Proofs.Counters.Calls
import Wiretap.Proofs.Counters.Labels
import Wiretap.Proofs.Number.Whole
/-! # What is exposed of counters

The text of the counters is a function of what was recorded and asked for, in whatever order. The lines of
a family are sorted by the values of their labels. No two of them have the same values, so nothing is left
to the order in which the counters came into being.
-/

namespace Wiretap

open Counters (portLabel)

/-! ## The order of counters -/

namespace Counter

variable {a b : String} {as bs cs : List String}

theorem isNoLater_cons :
    isNoLater (a :: as) (b :: bs) = true ↔ a < b ∨ a = b ∧ isNoLater as bs = true := by
  simp [isNoLater]

theorem isNoLater_total (as bs : List String) : (isNoLater as bs || isNoLater bs as) = true := by
  fun_induction isNoLater as bs with
  | case1 => rfl
  | case2 => rfl
  | case3 a as b bs ih =>
      rw [Bool.or_eq_true, isNoLater_cons]
      rcases Std.Trichotomous.rel_or_eq_or_rel_swap (r := fun a b : String => a < b) (a := a) (b := b)
        with less | rfl | more
      · simp [less]
      · simpa using ih
      · exact .inr (.inl more)

theorem isNoLater_trans (as bs cs : List String) (first : isNoLater as bs = true)
    (second : isNoLater bs cs = true) : isNoLater as cs = true := by
  induction as generalizing bs cs with
  | nil => rfl
  | cons a as ih =>
      cases bs with
      | nil => cases first
      | cons b bs =>
          cases cs with
          | nil => cases second
          | cons c cs =>
              rw [isNoLater_cons] at first second ⊢
              rcases first with less | ⟨rfl, first⟩
              · rcases second with more | ⟨rfl, _⟩
                · exact .inl (String.lt_trans less more)
                · exact .inl less
              · rcases second with more | ⟨rfl, second⟩
                · exact .inl more
                · exact .inr ⟨rfl, ih bs cs first second⟩

theorem isNoLater_antisymm (first : isNoLater as bs = true) (second : isNoLater bs as = true) :
    as = bs := by
  induction as generalizing bs with
  | nil =>
      cases bs with
      | nil => rfl
      | cons => cases second
  | cons a as ih =>
      cases bs with
      | nil => cases first
      | cons b bs =>
          rw [isNoLater_cons] at first second
          rcases first with less | ⟨rfl, first⟩
          · rcases second with more | ⟨rfl, _⟩
            · exact (String.lt_asymm less more).elim
            · exact (String.lt_irrefl _ less).elim
          · rcases second with more | ⟨_, second⟩
            · exact (String.lt_irrefl _ more).elim
            · rw [ih first second]

end Counter

/-! ## Counters by the labels that are shown -/

namespace CounterName

variable {a b : CounterName}

/-- The labels in alphabetical order of their names. -/
def namedLabels : CounterName → List (String × String)
  | bytes p direction | chunks p direction =>
      [("direction", direction.name), ("port", portLabel p)]
  | inspectionFailures p | sessions p => [("port", portLabel p)]
  | setupFailures p kind => [("kind", kind.text), ("port", portLabel p)]

theorem namedLabels_counter (name : CounterName) (value : UInt64) :
    (name.counter value).namedLabels = name.namedLabels := by
  cases name <;>
    simp [counter, family, labels, localPort, detail?, namedLabels, Counter.namedLabels,
      Family.labelNames, List.mergeSort]

theorem ext_of_values (family : a.family = b.family)
    (values : a.namedLabels.map (·.2) = b.namedLabels.map (·.2)) : a = b := by
  have shown (name : CounterName) :
      name.namedLabels.map (·.2) = name.detail?.toList ++ [portLabel name.localPort] := by
    cases name <;> rfl
  rw [shown, shown] at values
  obtain ⟨details, ports⟩ := List.append_inj' values rfl
  have first (detail? : Option String) : detail?.getD "" = detail?.toList.headD "" := by
    cases detail? <;> rfl
  exact ext_of_family family (Counters.portLabel_injective (List.singleton_inj.mp ports))
    (by rw [first, first, details])

/-- Whether the counter of a name is exposed no later than another one of its family. -/
def isNoLater (a b : CounterName) : Bool :=
  Counter.isNoLater (a.namedLabels.map (·.2)) (b.namedLabels.map (·.2))

theorem isNoLater_sortKey (a b : CounterName) (v w : UInt64) :
    Counter.isNoLater (a.counter v).sortKey (b.counter w).sortKey = a.isNoLater b := by
  rw [Counter.sortKey, Counter.sortKey, namedLabels_counter, namedLabels_counter, isNoLater]

/-- What the names of one family are sorted to depends on nothing but the names. -/
theorem mergeSort_of_perm {family : Family} {names more : List CounterName}
    (one : ∀ name ∈ names, name.family = family) (turned : names.Perm more) :
    names.mergeSort isNoLater = more.mergeSort isNoLater := by
  have sorted (names : List CounterName) :
      (names.mergeSort isNoLater).Pairwise fun a b => a.isNoLater b = true := by
    refine List.pairwise_mergeSort (fun a b c => ?_) (fun a b => ?_) names
    · exact Counter.isNoLater_trans _ _ _
    · exact Counter.isNoLater_total _ _
  have same : (names.mergeSort isNoLater).Perm (more.mergeSort isNoLater) :=
    (List.mergeSort_perm ..).trans (turned.trans (List.mergeSort_perm ..).symm)
  refine same.eq_of_pairwise (fun a b first second before after => ?_) (sorted names) (sorted more)
  have family (name : CounterName) (there : name ∈ names.mergeSort isNoLater) : name.family = family :=
    one name (List.mem_mergeSort.mp there)
  exact ext_of_values ((family a first).trans (family b (same.mem_iff.mpr second)).symm)
    (Counter.isNoLater_antisymm before after)

end CounterName

namespace Counters

variable {cs : Counters} {names : List CounterName} {calls : List CounterCall}

/-- The names of a family that some calls concern, once each, in the order in which they are exposed. -/
def concerned (calls : List CounterCall) (family : Family) : List CounterName :=
  ((calls.flatMap CounterCall.names).dedup.filter (·.family = family)).mergeSort CounterName.isNoLater

theorem mem_concerned {family : Family} {name : CounterName} :
    name ∈ concerned calls family ↔ name.family = family ∧ ∃ call ∈ calls, name ∈ call.names := by
  rw [concerned, List.mem_mergeSort, List.mem_filter, List.mem_dedup, List.mem_flatMap, and_comm,
    decide_eq_true_iff]

theorem nodup_concerned (calls : List CounterCall) (family : Family) :
    (concerned calls family).Nodup :=
  (List.mergeSort_perm ..).nodup_iff.mpr ((List.nodup_dedup _).filter _)

theorem concerned_of_perm {calls' : List CounterCall} (turned : calls.Perm calls')
    (family : Family) : concerned calls family = concerned calls' family :=
  CounterName.mergeSort_of_perm (fun _ there => of_decide_eq_true (List.mem_filter.mp there).2)
    ((turned.flatMap_right _).dedup.filter _)

theorem Counts.ofFamily (h : Counts cs names) (family : Family) :
    cs.ofFamily family =
      ((names.filter (·.family = family)).mergeSort CounterName.isNoLater).map fun name =>
        name.counter (cs.valueOf name) := by
  have members : cs.filter (·.family == family) =
      (names.filter (·.family = family)).map fun name => name.counter (cs.valueOf name) := by
    have same (f : Family) : (f == family) = decide (f = family) := by
      cases f <;> cases family <;> rfl
    rw [congrArg (List.filter _) h.counters, List.filter_map]
    congr 2
    funext name
    exact same _
  rw [Counters.ofFamily, members]
  refine (List.map_mergeSort fun a _ b _ => ?_).symm
  exact (CounterName.isNoLater_sortKey a b _ _).symm

/-- The counters of a family, as they are exposed after some calls. -/
theorem ofFamily_after (calls : List CounterCall) (family : Family) :
    (after calls).ofFamily family =
      (concerned calls family).map fun name => name.counter ((after calls).valueOf name) := by
  obtain ⟨names, counts, member⟩ := counts_after calls
  have turned : names.Perm (calls.flatMap CounterCall.names).dedup :=
    (List.perm_ext_iff_of_nodup counts.distinct (List.nodup_dedup _)).mpr fun name => by
      rw [member, List.mem_dedup]
  have family_eq (name : CounterName) (there : name ∈ names.filter (·.family = family)) :
      name.family = family := of_decide_eq_true (List.mem_filter.mp there).2
  rw [counts.ofFamily, CounterName.mergeSort_of_perm family_eq (turned.filter _), concerned]

end Counters

/-! ## Lines -/

namespace Family

variable {f g : Family} {x y : List Char}

theorem eq_of_name_append (h : f.name.toList ++ '\x7b' :: x = g.name.toList ++ '\x7b' :: y) :
    f = g := by
  have read (f : Family) (x : List Char) :
      (f.name.toList ++ '\x7b' :: x).takeWhile (· != '\x7b') = f.name.toList := by
    have plain : f.name.toList.all (· != '\x7b') = true := by cases f <;> decide
    rw [List.takeWhile_append_of_pos (List.all_eq_true.mp plain)]
    simp
  have names : f.name = g.name := String.toList_inj.mp (by rw [← read f x, h, read])
  cases f <;> cases g <;> first | rfl | exact absurd names (by decide +kernel)

/-- The lines about a family with some samples: none if there is no sample. -/
def lines (family : Family) : List String → List String
  | [] => []
  | samples => s!"# HELP {family.name} {family.help}" :: s!"# TYPE {family.name} counter" :: samples

theorem newline_notin_name (family : Family) : '\n' ∉ family.name.toList := by
  cases family <;> decide +kernel

theorem newline_notin_help (family : Family) : '\n' ∉ family.help.toList := by
  cases family <;> decide +kernel

theorem newline_notin_lines {samples : List String} (fresh : ∀ s ∈ samples, '\n' ∉ s.toList)
    (family : Family) : ∀ line ∈ family.lines samples, '\n' ∉ line.toList := by
  cases samples with
  | nil => nofun
  | cons sample samples =>
      intro line there
      rcases List.mem_cons.mp there with rfl | there
      · simp [toString, newline_notin_name, newline_notin_help]
      · rcases List.mem_cons.mp there with rfl | there
        · simp [toString, newline_notin_name]
        · exact fresh line there

end Family

namespace CounterName

variable {a b : CounterName}

def series (name : CounterName) : String :=
  name.family.name ++ "\x7b" ++ labelsText name.namedLabels ++ "\x7d"

def sample (name : CounterName) (value : UInt64) : String :=
  name.series ++ " " ++ (Double.ofWord value.toNat).positional

theorem line_counter (name : CounterName) (value : UInt64) :
    (name.counter value).line = name.sample value ++ "\n" := by
  have behind : "\x7d " = "\x7d" ++ " " := by decide
  rw [Counter.line, namedLabels_counter, behind]
  simp only [sample, series, labelsText, String.append_assoc]
  rfl

theorem eq_of_series_append {x y : List Char}
    (h : a.series.toList ++ x = b.series.toList ++ y) : a = b := by
  have bracket : "\x7b".toList = ['\x7b'] := rfl
  simp only [series, String.toList_append, bracket, List.append_assoc, List.singleton_append] at h
  have family := Family.eq_of_name_append h
  have names : a.namedLabels.map (·.1) = b.namedLabels.map (·.1) := by
    cases a <;> cases b <;> first | rfl | cases family
  rw [family] at h
  obtain ⟨labels, _⟩ := labelsText_append_inj names (List.cons.inj (List.append_cancel_left h)).2
  exact ext_of_values family (by rw [labels])

/-- No two counters have the same line, whatever they are at. -/
theorem eq_of_sample_eq {v w : UInt64} (h : a.sample v = b.sample w) : a = b := by
  have h := congrArg String.toList h
  simp only [sample, String.toList_append, List.append_assoc] at h
  exact eq_of_series_append h

example : (CounterName.setupFailures 80 ⟨"a \"b\"\n", by decide⟩).sample 3 =
    "relaytap_setup_failures_total\x7bkind=\"a \\\"b\\\"\\n\",port=\"80\"\x7d 3" := by
  decide +kernel

theorem sample_of_small {name : CounterName} {value : UInt64} (small : value.toNat ≤ 2 ^ 53) :
    name.sample value = name.series ++ " " ++ toString value.toNat := by
  rw [sample, Double.positional_ofWord small]

theorem newline_notin_sample (name : CounterName) (value : UInt64) :
    '\n' ∉ (name.sample value).toList := by
  have labels : '\n' ∉ (labelsText name.namedLabels).toList :=
    newline_notin_labelsText (by cases name <;> simp [namedLabels])
  have written : '\n' ∉ (Double.ofWord value.toNat).positional.toList := by
    intro there
    rcases Double.Decimal.isDigit_or_point there with digit | point
    · cases digit
    · cases point
  simp [sample, series, Family.newline_notin_name, labels, written]

end CounterName

/-! ## The whole text -/

namespace Counters

variable {calls : List CounterCall}

/-- The lines about a family after some calls. -/
def linesAfter (calls : List CounterCall) (family : Family) : List String :=
  family.lines ((concerned calls family).map fun name => name.sample ((after calls).valueOf name))

theorem familyText_after (calls : List CounterCall) (family : Family) :
    (after calls).familyText family = String.join ((linesAfter calls family).map (· ++ "\n")) := by
  have heading : s!"# HELP {family.name} {family.help}\n# TYPE {family.name} counter\n" =
      s!"# HELP {family.name} {family.help}" ++ "\n" ++ (s!"# TYPE {family.name} counter" ++ "\n") := by
    cases family <;> decide +kernel
  have samples (names : List CounterName) :
      (names.map fun name => name.counter ((after calls).valueOf name)).map Counter.line =
        (names.map fun name => name.sample ((after calls).valueOf name)).map (· ++ "\n") := by
    simp only [List.map_map, Function.comp_def, CounterName.line_counter]
  rw [familyText, ofFamily_after, linesAfter]
  cases concerned calls family with
  | nil => rfl
  | cons name names =>
      simp only [Family.lines, List.map_cons, String.join_cons]
      rw [heading, String.append_assoc, ← samples names]
      simp only [CounterName.line_counter, String.append_assoc]

theorem expose_after (calls : List CounterCall) :
    (after calls).expose =
      String.join ((Family.all.flatMap (linesAfter calls)).map (· ++ "\n")) := by
  simp only [expose, Family.all, List.map_cons, List.map_nil, List.flatMap_cons, List.flatMap_nil,
    List.map_append, String.join_cons, String.join_append, familyText_after]

end Counters

namespace CounterService

variable {cs : Counters} {read : Bytes}

/-- The answer to a request for the counters, whose body is as long as its headers say. -/
theorem answerRead?_of_counters (asks : Resource.counters.words <+: read) :
    answerRead? cs read = some ("HTTP/1.1 200 OK\r\n" ++
      "Content-Type: text/plain; version=0.0.4; charset=utf-8\r\n" ++
      s!"Content-Length: {(Bytes.ofText cs.expose).length}\r\nConnection: close\r\n\r\n" ++
      cs.expose) := by
  have some_ : read.isEmpty = false := by
    cases read with
    | nil => exact absurd (List.prefix_nil.mp asks) (by decide +kernel)
    | cons => rfl
  have length : Bytes.lengthOf cs.expose = (Bytes.ofText cs.expose).length := rfl
  rw [answerRead?, some_, resource_eq_of_prefix asks (by decide), answerTo, response, length]
  simp only [Bool.false_eq_true, if_false, String.append_assoc]
  rfl

end CounterService

namespace Counters

/-- Whatever is recorded and asked for, in whatever order: a counter that is asked for is at what was
recorded with its labels. The text of the counters has the lines of each family of which anything was
recorded or asked for, one line for each set of labels, and no two sets have the same line. It depends on
nothing but how often each call was made, and is sent with its length in octets. -/
theorem exposed_as_recorded (calls : List CounterCall) :
    let cs := after calls
    let sample (name : CounterName) := name.sample (cs.ask name).1
    let lines := Family.all.flatMap fun family => family.lines ((concerned calls family).map sample)
    (∀ name, (cs.ask name).1 = .ofNat (name.recorded calls)) ∧
      (∀ family, (concerned calls family).Nodup ∧ ∀ name, name ∈ concerned calls family ↔
        name.family = family ∧ ∃ call ∈ calls, name ∈ call.names) ∧
      cs.expose = String.join (lines.map (· ++ "\n")) ∧ (∀ line ∈ lines, '\n' ∉ line.toList) ∧
      (∀ (a b : CounterName) (v w : UInt64), a.sample v = b.sample w → a = b) ∧
      (∀ name, (cs.ask name).1.toNat ≤ 2 ^ 53 →
        sample name = name.series ++ " " ++ toString (cs.ask name).1.toNat) ∧
      (∀ calls', calls.Perm calls' → (after calls').expose = cs.expose) ∧
      ∀ read, Bytes.ofText "GET /metrics" <+: read →
        CounterService.answerRead? cs read = some ("HTTP/1.1 200 OK\r\n" ++
          "Content-Type: text/plain; version=0.0.4; charset=utf-8\r\n" ++
          s!"Content-Length: {(Bytes.ofText cs.expose).length}\r\nConnection: close\r\n\r\n" ++
          cs.expose) := by
  intro cs sample lines
  have asked (name : CounterName) : (cs.ask name).1 = cs.valueOf name := fst_ask name cs
  have lines_eq : lines = Family.all.flatMap (linesAfter calls) := by
    simp only [lines, sample, asked]
    rfl
  refine ⟨fun name => (asked name).trans (valueOf_after calls name),
    fun family => ⟨nodup_concerned calls family, fun name => mem_concerned⟩,
    lines_eq ▸ expose_after calls, fun line there => ?_, fun a b v w => CounterName.eq_of_sample_eq,
    fun name => CounterName.sample_of_small, fun calls' turned => ?_,
    fun read => CounterService.answerRead?_of_counters⟩
  · obtain ⟨family, _, there⟩ := List.mem_flatMap.mp there
    refine family.newline_notin_lines (fun s member => ?_) line there
    obtain ⟨name, _, rfl⟩ := List.mem_map.mp member
    exact name.newline_notin_sample _
  · have values (name : CounterName) : (after calls').valueOf name = (after calls).valueOf name := by
      rw [valueOf_after, valueOf_after, recorded_of_perm turned]
    have same : linesAfter calls' = linesAfter calls := by
      funext family
      simp only [linesAfter, values, concerned_of_perm turned family]
    rw [expose_after, same]
    exact (expose_after calls).symm

end Counters

end Wiretap
