import Wiretap.Disk
import Wiretap.Proofs.Text.Splitting
/-! # What stays on a disk

Opening a file to append to it makes it when it is missing, and takes nothing away: whatever a path led
to before, it leads to still. What is appended to a file comes behind its content.
-/

namespace Wiretap

def Disk.Grows (d e : Disk) : Prop := ∀ way place, d.at? way = some place → e.at? way = some place

namespace Disk

variable {d e : Disk}

theorem grows_put {way : Route} (nothing : d.at? way = none) (place : Place) :
    d.Grows (d.put way place) := by
  intro other there found
  have apart : other ≠ way := by
    rintro rfl
    cases nothing.symm.trans found
  simp only [at?] at nothing found ⊢
  split at nothing
  · cases nothing
  split at found
  · rename_i always
    rw [if_pos always]
    exact found
  · rename_i named
    have missing : d.places.any (·.1 == way) = false := by
      rw [List.lookup_eq_none_iff] at nothing
      rw [List.any_eq_false]
      intro p member same
      exact bne_iff_ne.mp (nothing p member) (beq_iff_eq.mp same).symm
    simp only [put, missing, if_neg named, Bool.false_eq_true, if_false, List.lookup_append, found,
      Option.some_or]

theorem Grows.folder (h : d.Grows e) {way next : Route} (leads : d.folder way = .ok next) :
    e.folder way = .ok next := by
  simp only [Disk.folder] at leads ⊢
  cases there : d.at? way with
  | none => simp [there] at leads
  | some place =>
      rw [there] at leads
      rw [h way place there]
      exact leads

theorem Grows.follow (h : d.Grows e) {way next : Route} {name : String}
    (leads : d.follow way name = .ok next) : e.follow way name = .ok next := by
  simp only [Disk.follow, bind, Except.bind] at leads ⊢
  cases first : d.folder way with
  | error fault => simp [first] at leads
  | ok folder =>
      rw [first] at leads
      rw [h.folder first]
      exact leads

theorem Grows.followAll (h : d.Grows e) {names : List String} {way last : Route}
    (leads : names.foldlM d.follow way = .ok last) : names.foldlM e.follow way = .ok last := by
  induction names generalizing way with
  | nil => exact leads
  | cons name names ih =>
      simp only [List.foldlM_cons, bind, Except.bind] at leads ⊢
      cases first : d.follow way name with
      | error fault => simp [first] at leads
      | ok next =>
          rw [first] at leads
          rw [h.follow first]
          exact ih leads

theorem Grows.wayTo (h : d.Grows e) {path : String} {way : Route} (leads : d.wayTo path = .ok way) :
    e.wayTo path = .ok way := by
  simp only [Disk.wayTo, walk] at leads ⊢
  split at leads
  · cases leads
  · rename_i sound
    exact h.followAll leads

theorem Grows.find (h : d.Grows e) {path : String} {place : Place} (found : d.find path = .ok place) :
    e.find path = .ok place := by
  simp only [Disk.find, bind, Except.bind] at found ⊢
  cases leads : d.wayTo path with
  | error fault => simp [leads] at found
  | ok way =>
      rw [leads] at found
      rw [h.wayTo leads]
      cases there : d.at? way with
      | none => simp [there, throw, throwThe, MonadExceptOf.throw] at found
      | some other =>
          simp only [there] at found
          simp only [h way other there]
          exact found

/-- Nothing can be appended to a folder. -/
theorem openToAppend_of_insists (d : Disk) {path : String} (insists : insistsOnFolder path = true) :
    ∃ fault, d.openToAppend path = .error fault := by
  simp only [openToAppend, insists, if_true, bind, Except.bind, discard, Functor.discard]
  cases d.walk path (Route.names path).dropLast with
  | error fault => exact ⟨fault, rfl⟩
  | ok way =>
      cases found : d.folder way with
      | error fault => exact ⟨fault, by simp [found, Functor.mapConst, Except.map]⟩
      | ok => exact ⟨_, by simp [found, Functor.mapConst, Except.map]; rfl⟩

theorem grows_openToAppend {path : String} (opens : d.openToAppend path = .ok e) : d.Grows e := by
  cases insists : insistsOnFolder path with
  | true =>
      obtain ⟨fault, refused⟩ := d.openToAppend_of_insists insists
      cases refused.symm.trans opens
  | false =>
      simp only [openToAppend, insists, Bool.false_eq_true, if_false, bind, Except.bind] at opens
      cases leads : d.wayTo path with
      | error fault => simp [leads] at opens
      | ok way =>
          simp only [leads] at opens
          cases there : d.at? way with
          | none =>
              simp only [there, pure, Except.pure, Except.ok.injEq] at opens
              exact opens ▸ grows_put there _
          | some place =>
              cases place with
              | folder => simp [there, throw, throwThe, MonadExceptOf.throw] at opens
              | file | sink | full =>
                  simp only [there, pure, Except.pure, Except.ok.injEq] at opens
                  exact opens ▸ fun _ _ found => found

/-! ## The content of a file -/

variable {way : Route} {content : Bytes}

/-- There is a file with this content at the end of a way. A missing file counts as an empty one. -/
def Holds (d : Disk) (way : Route) (content : Bytes) : Prop :=
  (d.at? way).getD (.file []) = .file content

theorem lookup_replaced {place : Place} {places : List (Route × Place)}
    (there : ∃ p ∈ places, p.1 = way) :
    (places.map fun p => if p.1 == way then (way, place) else p).lookup way = some place := by
  induction places with
  | nil => simp at there
  | cons p places ih =>
      rw [List.map_cons]
      by_cases here : p.1 = way
      · rw [if_pos (beq_iff_eq.mpr here), List.lookup_cons_self]
      · obtain ⟨q, member, found⟩ := there
        obtain rfl | member := List.mem_cons.mp member
        · exact (here found).elim
        · rw [if_neg (by simpa using here), List.lookup_cons, beq_false_of_ne (Ne.symm here)]
          exact ih ⟨q, member, found⟩

theorem at?_put (named : (way.isEmpty || way == ["/"]) = false) (d : Disk) (place : Place) :
    (d.put way place).at? way = some place := by
  rw [at?, if_neg (by simp [named]), put]
  split
  next there =>
    refine lookup_replaced ?_
    simpa using there
  next missing =>
    have nothing : d.places.lookup way = none := by
      rw [List.lookup_eq_none_iff]
      intro p member
      simpa using fun same => missing (List.any_eq_true.mpr ⟨p, member, beq_iff_eq.mpr same.symm⟩)
    simp [List.lookup_append, nothing]

theorem Holds.named (holds : d.Holds way content) : (way.isEmpty || way == ["/"]) = false := by
  rw [Bool.eq_false_iff]
  intro always
  simp [Holds, at?, always] at holds

theorem holds_put (holds : d.Holds way content) (other : Bytes) :
    (d.put way (.file other)).Holds way other := by
  rw [Holds, at?_put holds.named]
  rfl

theorem openToAppend_of_missing {path : String} (plain : insistsOnFolder path = false)
    (leads : d.wayTo path = .ok way) (missing : d.at? way = none) :
    d.openToAppend path = .ok (d.put way (.file [])) := by
  simp [openToAppend, plain, leads, missing, bind, Except.bind, pure, Except.pure]

theorem openToAppend_of_file {path : String} (plain : insistsOnFolder path = false)
    (leads : d.wayTo path = .ok way) (there : d.at? way = some (.file content)) :
    d.openToAppend path = .ok d := by
  simp [openToAppend, plain, leads, there, bind, Except.bind, pure, Except.pure]

theorem append_of_file {path : String} (leads : d.wayTo path = .ok way)
    (there : d.at? way = some (.file content)) (more : Bytes) :
    d.append path more = .ok (d.put way (.file (content ++ more))) := by
  simp [append, leads, there, bind, Except.bind, pure, Except.pure]

theorem Holds.cases (holds : d.Holds way content) :
    (d.at? way = none ∧ content = []) ∨ d.at? way = some (.file content) := by
  cases there : d.at? way with
  | none =>
      simp only [Holds, there, Option.getD_none, Place.file.injEq] at holds
      exact .inl ⟨rfl, holds.symm⟩
  | some place =>
      simp only [Holds, there, Option.getD_some] at holds
      exact .inr (congrArg some holds)

theorem holds_openToAppend {path : String} (leads : d.wayTo path = .ok way) (holds : d.Holds way content)
    (opens : d.openToAppend path = .ok e) : e.Holds way content := by
  cases insists : insistsOnFolder path with
  | true =>
      obtain ⟨fault, refused⟩ := d.openToAppend_of_insists insists
      cases refused.symm.trans opens
  | false =>
      obtain ⟨missing, rfl⟩ | there := holds.cases
      · obtain rfl := Except.ok.inj ((openToAppend_of_missing insists leads missing).symm.trans opens)
        exact holds_put holds []
      · obtain rfl := Except.ok.inj ((openToAppend_of_file insists leads there).symm.trans opens)
        exact holds

theorem holds_append {path : String} {more : Bytes} (leads : d.wayTo path = .ok way)
    (holds : d.Holds way content) (appends : d.append path more = .ok e) :
    e.Holds way (content ++ more) := by
  obtain ⟨missing, _⟩ | there := holds.cases
  · simp [append, leads, missing, bind, Except.bind, throw, throwThe, MonadExceptOf.throw] at appends
  · obtain rfl := Except.ok.inj ((append_of_file leads there more).symm.trans appends)
    exact holds_put holds _

/-! ## Finding a file -/

theorem find_of_file {path : String} (plain : insistsOnFolder path = false)
    (leads : d.wayTo path = .ok way) (there : d.at? way = some (.file content)) :
    d.find path = .ok (.file content) := by
  simp [find, leads, there, plain, bind, Except.bind, pure, Except.pure]

theorem read_of_find {path : String} (found : d.find path = .ok (.file content)) :
    d.read path = .ok content := by
  simp [read, found, bind, Except.bind, pure, Except.pure]

theorem exists?_of_find {path : String} {place : Place} (found : d.find path = .ok place) :
    d.exists? path = true := by
  rw [exists?, found]
  rfl

theorem at?_remove (named : (way.isEmpty || way == ["/"]) = false) (d : Disk) :
    (d.remove way).at? way = none := by
  rw [at?, if_neg (by simp [named])]
  refine List.lookup_eq_none_iff.mpr fun p member => ?_
  have other := (List.mem_filter.mp member).2
  simp only [bne_iff_ne] at other
  simpa using other.symm

theorem lookup_filter_of_ne {other : Route} (apart : other ≠ way) (places : List (Route × Place)) :
    (places.filter (·.1 != way)).lookup other = places.lookup other := by
  induction places with
  | nil => rfl
  | cons p places ih =>
      by_cases kept : p.1 = way
      · rw [List.filter_cons_of_neg (by simp [kept]), List.lookup_cons,
          beq_false_of_ne (kept ▸ apart)]
        exact ih
      · rw [List.filter_cons_of_pos (by simp [kept]), List.lookup_cons, List.lookup_cons, ih]

/-- Taking a place away leaves nothing but what was there. -/
theorem grows_remove (named : (way.isEmpty || way == ["/"]) = false) (d : Disk) :
    (d.remove way).Grows d := by
  intro other place found
  by_cases apart : other = way
  · subst apart
    cases (d.at?_remove named).symm.trans found
  · simp only [at?, remove, lookup_filter_of_ne apart] at found ⊢
    exact found

/-- What a path leads to is gone once it is removed, and so is the way there. Only the root and the
working folder stay. -/
theorem exists?_removeAt {path : String}
    (named : ∀ way, d.wayTo path = .ok way → (way.isEmpty || way == ["/"]) = false) :
    (d.removeAt path).exists? path = false := by
  cases leads : d.wayTo path with
  | error fault =>
      have untouched : d.removeAt path = d := by
        rw [removeAt, leads]
        rfl
      rw [untouched, exists?, find, leads]
      rfl
  | ok way =>
      have removed : d.removeAt path = d.remove way := by
        rw [removeAt, leads]
        rfl
      rw [removed, exists?, find]
      cases again : (d.remove way).wayTo path with
      | error fault => rfl
      | ok other =>
          obtain rfl := Except.ok.inj (leads.symm.trans ((grows_remove (named way leads) d).wayTo again))
          simp only [bind, Except.bind, at?_remove (named way leads)]
          rfl

end Disk

/-! ## A path of one name -/

/-- A path that is the name of a place in the working folder. -/
structure Route.IsName (path : String) : Prop where
  given : path ≠ ""
  slashless : '/' ∉ path.toList
  nulFree : Char.ofNat 0 ∉ path.toList
  stays : path ≠ "." ∧ path ≠ ".."
  fits : Bytes.lengthOf path ≤ Route.longestName

namespace Route.IsName

variable {path : String} {content : Bytes} (name : Route.IsName path)
include name

theorem splitOn : path.splitOn "/" = [path] := Text.splitOn_of_not_mem name.slashless

theorem names : Route.names path = [path] := by simp [Route.names, name.splitOn, name.given]

theorem fault? : Route.fault? path = none := by
  have fits := name.fits
  have short : ¬Bytes.lengthOf path > longestPath := by
    simp only [longestName, longestPath] at fits ⊢
    omega
  simp [Route.fault?, String.contains_char_eq, name.nulFree, name.given, short]

theorem startsWith : path.startsWith "/" = false := by
  rw [String.startsWith_string_eq_false_iff]
  exact fun starts => name.slashless (starts.subset (by decide))

theorem insistsOnFolder : insistsOnFolder path = false := by
  rw [Wiretap.insistsOnFolder, String.endsWith_eq_endsWith_toSlice,
    String.Slice.endsWith_string_eq_false_iff, String.copy_toSlice]
  exact fun ends => name.slashless (ends.subset (by decide))

theorem parentPath? : parentPath? path = some "" := by
  have pieces : piecesBackwards path = [path] := by simp [piecesBackwards, name.splitOn]
  have nothing : piecesBackwards "" = [""] := by
    have none : ("" : String).splitOn "/" = [""] := Text.splitOn_of_not_mem (by decide)
    simp [piecesBackwards, none]
  simp [Wiretap.parentPath?, pieces, nothing, name.given, name.startsWith]

theorem wayTo (d : Disk) : d.wayTo path = .ok [path] := by
  have fits : ¬Bytes.lengthOf path > Route.longestName := Nat.not_lt.mpr name.fits
  simp [Disk.wayTo, Disk.walk, Disk.follow, Disk.folder, Disk.at?, name.names, name.fault?, origin,
    name.startsWith, push, name.stays, fits, bind, Except.bind, pure, Except.pure]

theorem find {d : Disk} (there : d.at? [path] = some (.file content)) :
    d.find path = .ok (.file content) :=
  Disk.find_of_file name.insistsOnFolder (name.wayTo d) there

theorem read {d : Disk} (there : d.at? [path] = some (.file content)) : d.read path = .ok content :=
  Disk.read_of_find (name.find there)

theorem exists? {d : Disk} (there : d.at? [path] = some (.file content)) : d.exists? path = true :=
  Disk.exists?_of_find (name.find there)

theorem exists?_removeAt (d : Disk) : (d.removeAt path).exists? path = false := by
  refine Disk.exists?_removeAt fun way leads => ?_
  obtain rfl := Except.ok.inj ((name.wayTo d).symm.trans leads)
  have notRoot : path ≠ "/" := by
    rintro rfl
    exact name.slashless (by decide)
  simpa using notRoot

end Route.IsName

theorem Route.isName_r : Route.IsName "r" := ⟨by decide, by decide, by decide, by decide, by decide⟩

end Wiretap
