import GraphCompare.Settings.Json
import Mathlib

/-! Which settings differ. The keys that are compared cover every field, and comparing factors as
numbers tells apart all that a valid one can differ from. -/
namespace GraphCompare.Settings
variable {s t : Settings} {key : SettingKey}

/-- Some field that the key stands for is another one. -/
def Differs (s t : Settings) : SettingKey → Prop
  | .synchronizedViews => s.synchronizedViews ≠ t.synchronizedViews
  | .visibilityWarningThreshold => s.warningThreshold ≠ t.warningThreshold
  | .automaticLayouting => s.automaticLayout ≠ t.automaticLayout
  | .zoomOutFactor => s.zoomOutFactor ≠ t.zoomOutFactor
  | .proximityBrowsing => s.browsing.enabled ≠ t.browsing.enabled
  | .proximityDepth => s.browsing.childDepth ≠ t.browsing.childDepth ∨
      s.browsing.parentDepth ≠ t.browsing.parentDepth

theorem not_differs_self (s : Settings) (key : SettingKey) : ¬ s.Differs s key := by
  cases key <;> simp [Differs]

/-- No field is left out. -/
theorem exists_differs (h : s ≠ t) : ∃ key, s.Differs t key := by
  by_contra hsame
  push Not at hsame
  apply h
  have hsync := hsame .synchronizedViews
  have hthreshold := hsame .visibilityWarningThreshold
  have hlayout := hsame .automaticLayouting
  have hfactor := hsame .zoomOutFactor
  have henabled := hsame .proximityBrowsing
  have hdepth := hsame .proximityDepth
  obtain ⟨_, _, _, _, _, _, _⟩ := s
  obtain ⟨_, _, _, _, _, _, _⟩ := t
  simp_all [Differs]

theorem isValid_iff : s.isValid = true ↔ 0 < s.zoomOutFactor ∧ s.zoomOutFactor < 1 := by
  simp [isValid]

/-- A factor strictly above 0 is neither of the zeros, and it is a number, so it equals another
factor only if that is the same one. -/
theorem factor_beq_iff (ht : t.isValid = true) :
    (s.zoomOutFactor == t.zoomOutFactor) = true ↔ s.zoomOutFactor = t.zoomOutFactor := by
  have hpos : 0 < t.zoomOutFactor := (isValid_iff.mp ht).1
  have hzero : t.zoomOutFactor ≠ 0 := by
    intro h
    rw [h] at hpos
    exact absurd hpos (by decide)
  have hnegative : t.zoomOutFactor ≠ -0 := by
    intro h
    rw [h] at hpos
    exact absurd hpos (by decide)
  have hnumber : t.zoomOutFactor ≠ Float.nan := by
    intro h
    rw [h] at hpos
    exact absurd hpos (by decide)
  rw [Float.beq_iff_ne_nan_and_eq]
  constructor
  · rintro ⟨_, _, heq | ⟨_, heq⟩ | ⟨_, heq⟩⟩
    · exact heq
    · exact absurd heq hnegative
    · exact absurd heq hzero
  · intro heq
    rw [heq]
    exact ⟨hnumber, hnumber, .inl rfl⟩

theorem differsAt_iff (ht : t.isValid = true) : s.differsAt t key = true ↔ s.Differs t key := by
  cases key with
  | zoomOutFactor => simp [differsAt, Differs, bne, ← Bool.not_eq_true, factor_beq_iff ht]
  | _ => simp [differsAt, Differs]

theorem mem_changedKeys (ht : t.isValid = true) : key ∈ s.changedKeys t ↔ s.Differs t key := by
  have hall : key ∈ SettingKey.all := by cases key <;> decide
  simp [changedKeys, hall, differsAt_iff ht]

theorem isValid_of_checked {s? : Option Settings} (h : checked s? = .ok t) : t.isValid = true := by
  cases s? with
  | none => cases h
  | some u =>
    simp only [checked, validate] at h
    split at h
    · cases h
      assumption
    · cases h

/-- Settings are overridden by valid ones, together with the keys that this changes. -/
theorem override_ok {overrides : Json} {change : List SettingKey × Settings}
    (h : s.override overrides = .ok change) :
    change.2.isValid = true ∧ change.1 = s.changedKeys change.2 := by
  unfold override at h
  cases hchecked : checked (ofDoc? (s.toJson.merge overrides).toDoc) with
  | error f =>
    rw [hchecked] at h
    cases h
  | ok t =>
    rw [hchecked] at h
    cases h
    exact ⟨isValid_of_checked hchecked, rfl⟩

/-- The keys that come out of an override are those that differ. -/
theorem mem_of_override {overrides : Json} {changed : List SettingKey}
    (h : s.override overrides = .ok (changed, t)) : key ∈ changed ↔ s.Differs t key := by
  obtain ⟨hvalid, hchanged⟩ := override_ok h
  change changed = s.changedKeys t at hchanged
  rw [hchanged, mem_changedKeys hvalid]

/-- An override is rejected, for its form or for the factor that it leads to. -/
def Rejects (s : Settings) (overrides : Json) (f : Failure) : Prop :=
  s.override overrides = .error f ∧ (f = .malformedJson ∨ ∃ x, f = .zoomOutFactor x)

theorem rejects_of_override {overrides : Json} {f : Failure}
    (h : s.override overrides = .error f) : s.Rejects overrides f := by
  refine ⟨h, ?_⟩
  unfold override at h
  cases hmerged : ofDoc? (s.toJson.merge overrides).toDoc with
  | none =>
    rw [hmerged] at h
    exact .inl (Except.error.inj h).symm
  | some t =>
    rw [hmerged] at h
    simp only [checked, validate] at h
    split at h
    · cases h
    · exact .inr ⟨_, (Except.error.inj h).symm⟩

end GraphCompare.Settings
