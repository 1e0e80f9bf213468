import Wiretap.Proofs.Settings.Overriding
/-! # The inspector under options

One option names a kind of inspector, another one the path of captures. A kind that is named is in
effect, but it starts afresh: the settings' own path or length of previews is given up even where the
kind stays the same. The path is heard only where the kind is named beside it.
-/

namespace Wiretap

namespace InspectorChoice

def path? : InspectorChoice → Option String
  | .capture path => some path
  | _ => none

def previewBytes? : InspectorChoice → Option Nat
  | .log n => some n
  | _ => none

end InspectorChoice

namespace Overrides

/-- Where options say something they have the last word, and where they say nothing all stays: the
inspector of some settings against the one that options come to. -/
structure HasLastWord (o : Overrides) (was is : InspectorChoice) : Prop where
  kind : is.kind = o.inspector.getD was.kind
  path : ∀ given there, o.capturePath = some given → is.path? = some there → there = given
  keepsPath : is.kind = was.kind → o.capturePath = none → is.path? = was.path?
  keepsPreview : is.kind = was.kind → is.previewBytes? = was.previewBytes?

/-- A path is given without a kind, and captures go elsewhere. -/
def IsUnheard (o : Overrides) (was : InspectorChoice) : Prop :=
  o.inspector = none ∧
    ∃ given there, o.capturePath = some given ∧ was.path? = some there ∧ there ≠ given

/-- The kind that is named was there already, with a parameter of its own that no option gives. -/
def StartsAfresh (o : Overrides) (was : InspectorChoice) : Prop :=
  o.inspector = some was.kind ∧
    ((o.capturePath = none ∧ ∃ there, was.path? = some there ∧ there ≠ standardCapturePath) ∨
      ∃ n, was.previewBytes? = some n ∧ n ≠ InspectorChoice.defaultPreviewBytes)

/-- The inspector that options come to. -/
inductive Chooses (o : Overrides) (was : InspectorChoice) : InspectorChoice → Prop where
  | unnamed (none : o.inspector = none) : Chooses o was was
  | noop (named : o.inspector = some "noop") : Chooses o was .noop
  | log (named : o.inspector = some "log") : Chooses o was .standard
  | capture (named : o.inspector = some "capture") :
      Chooses o was (.capture (o.capturePath.getD standardCapturePath))

variable {o : Overrides} {was is : InspectorChoice}

theorem Chooses.kind (h : o.Chooses was is) : is.kind = o.inspector.getD was.kind := by
  cases h with
  | unnamed none => rw [none]; rfl
  | noop named | log named | capture named => rw [named]; rfl

theorem Chooses.path (h : o.Chooses was is) (heard : ¬o.IsUnheard was) {given there : String}
    (gives : o.capturePath = some given) (goes : is.path? = some there) : there = given := by
  cases h with
  | unnamed none =>
      by_contra elsewhere
      exact heard ⟨none, given, there, gives, goes, elsewhere⟩
  | noop => cases goes
  | log => cases goes
  | capture =>
      rw [gives] at goes
      exact (Option.some.inj goes).symm

theorem Chooses.keepsPath (h : o.Chooses was is) (goesOn : ¬o.StartsAfresh was)
    (same : is.kind = was.kind) (nowhere : o.capturePath = none) : is.path? = was.path? := by
  cases h with
  | unnamed => rfl
  | noop | log =>
      cases was with
      | capture => simp [InspectorChoice.kind, InspectorChoice.standard] at same
      | noop | log => rfl
  | capture named =>
      cases was with
      | noop | log => simp [InspectorChoice.kind] at same
      | capture there =>
          rw [nowhere]
          by_contra differ
          refine goesOn ⟨named, .inl ⟨nowhere, there, rfl, fun standard => differ ?_⟩⟩
          rw [standard]
          rfl

theorem Chooses.keepsPreview (h : o.Chooses was is) (goesOn : ¬o.StartsAfresh was)
    (same : is.kind = was.kind) : is.previewBytes? = was.previewBytes? := by
  cases h with
  | unnamed => rfl
  | noop | capture =>
      cases was with
      | log => simp [InspectorChoice.kind] at same
      | noop | capture => rfl
  | log named =>
      cases was with
      | noop | capture => simp [InspectorChoice.kind, InspectorChoice.standard] at same
      | log n =>
          by_contra differ
          refine goesOn ⟨named, .inr ⟨n, rfl, fun standard => differ ?_⟩⟩
          rw [standard]
          rfl

theorem Chooses.not_isUnheard (h : o.Chooses was is) (lasts : o.HasLastWord was is) :
    ¬o.IsUnheard was := by
  rintro ⟨none, given, there, gives, goes, elsewhere⟩
  cases h with
  | unnamed => exact elsewhere (lasts.path given there gives goes)
  | noop named | log named | capture named => cases none.symm.trans named

theorem Chooses.not_startsAfresh (h : o.Chooses was is) (lasts : o.HasLastWord was is) :
    ¬o.StartsAfresh was := by
  rintro ⟨named, own⟩
  have same : is.kind = was.kind := by rw [lasts.kind, named]; rfl
  rcases own with ⟨nowhere, there, goes, elsewhere⟩ | ⟨n, shows, other⟩
  · have keeps := lasts.keepsPath same nowhere
    rw [goes] at keeps
    cases h with
    | unnamed none => cases none.symm.trans named
    | noop => cases keeps
    | log => cases keeps
    | capture =>
        rw [nowhere] at keeps
        exact elsewhere (Option.some.inj keeps).symm
  · have keeps := lasts.keepsPreview same
    rw [shows] at keeps
    cases h with
    | unnamed none => cases none.symm.trans named
    | noop => cases keeps
    | log => exact other (Option.some.inj keeps).symm
    | capture => cases keeps

theorem Chooses.hasLastWord_iff (h : o.Chooses was is) :
    o.HasLastWord was is ↔ ¬o.IsUnheard was ∧ ¬o.StartsAfresh was :=
  ⟨fun lasts => ⟨h.not_isUnheard lasts, h.not_startsAfresh lasts⟩, fun ⟨heard, goesOn⟩ =>
    { kind := h.kind
      path := fun _ _ => h.path heard
      keepsPath := h.keepsPath goesOn
      keepsPreview := h.keepsPreview goesOn }⟩

theorem choice_eq_ok {kind : String} (h : o.choice kind = .ok is) (named : o.inspector = some kind) :
    o.Chooses was is := by
  unfold choice at h
  split at h
  · cases h
    exact .noop named
  · cases h
    exact .log named
  · cases h
    exact .capture named
  · cases h

end Overrides

namespace Settings

theorem chooses_of_merge {o : Overrides} {s out : Settings} (merged : s.merge o = (out, none)) :
    o.Chooses s.inspector out.inspector := by
  simp only [merge, modifyFirst_withRelay] at merged
  cases named : o.inspector with
  | none =>
      simp only [named, Prod.mk.injEq, and_true] at merged
      rw [← merged]
      exact .unnamed named
  | some kind =>
      cases chosen : o.choice kind with
      | ok inspector =>
          simp only [named, chosen, Prod.mk.injEq, and_true] at merged
          rw [← merged]
          exact Overrides.choice_eq_ok chosen named
      | error failure =>
          simp only [named, chosen, Prod.mk.injEq, reduceCtorEq, and_false] at merged

/-- The kind that an option names is the kind in effect, and without one the settings' own is. Options
have the last word on the parameters, too, and leave those alone that they say nothing of, unless a path
is given without a kind, or a kind is named that was there already with parameters of its own. -/
theorem inspector_under_options {o : Overrides} {s out : Settings}
    (merged : s.merge o = (out, none)) :
    out.inspector.kind = o.inspector.getD s.inspector.kind ∧
      (o.HasLastWord s.inspector out.inspector ↔
        ¬o.IsUnheard s.inspector ∧ ¬o.StartsAfresh s.inspector) :=
  have chosen := chooses_of_merge merged
  ⟨chosen.kind, chosen.hasLastWord_iff⟩

/-- Captures are kept, and go to another file. -/
theorem inspector_under_options_redirected :
    let s : Settings := { standard with inspector := .capture "day.jsonl" }
    let o : Overrides := { inspector := some "capture", capturePath := some "night.jsonl" }
    let out := (s.merge o).1
    s.merge o = (out, none) ∧ out.inspector.path? = some "night.jsonl" ∧
      o.HasLastWord s.inspector out.inspector := by
  intro s o out
  have merged : s.merge o = (out, none) := rfl
  refine ⟨merged, rfl, (inspector_under_options merged).2.mpr ⟨?_, ?_⟩⟩
  · rintro ⟨unnamed, _⟩
    cases unnamed
  · rintro ⟨_, ⟨nowhere, _⟩ | ⟨_, shows, _⟩⟩
    · cases nowhere
    · cases shows

/-- Naming the kind that is there already moves captures to the standard file and cuts previews to the
standard length, and a path alone moves nothing. -/
theorem parameters_given_up :
    let capturing : Settings := { standard with inspector := .capture "day.jsonl" }
    let previewing : Settings := { standard with inspector := .log 16 }
    let capture : Overrides := { inspector := some "capture" }
    let log : Overrides := { inspector := some "log" }
    let path : Overrides := { capturePath := some "night.jsonl" }
    (∃ out, capturing.merge capture = (out, none) ∧
      out.inspector.path? = some "relaytap-capture.jsonl" ∧
      ¬capture.HasLastWord capturing.inspector out.inspector) ∧
    (∃ out, previewing.merge log = (out, none) ∧ out.inspector.previewBytes? = some 64 ∧
      ¬log.HasLastWord previewing.inspector out.inspector) ∧
    ∃ out, capturing.merge path = (out, none) ∧ out.inspector.path? = some "day.jsonl" ∧
      ¬path.HasLastWord capturing.inspector out.inspector := by
  refine ⟨⟨_, rfl, rfl, fun lasts => ?_⟩, ⟨_, rfl, rfl, fun lasts => ?_⟩,
    ⟨_, rfl, rfl, fun lasts => ?_⟩⟩
  · exact absurd (lasts.keepsPath rfl rfl) (by decide)
  · exact absurd (lasts.keepsPreview rfl) (by decide)
  · exact absurd (lasts.path "night.jsonl" "day.jsonl" rfl rfl) (by decide)

end Settings

end Wiretap
