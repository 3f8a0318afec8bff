import GraphCompare.Proofs.Json.Merging
import GraphCompare.Proofs.Screen.Floating
import GraphCompare.Proofs.Settings.Difference

/-! Overriding settings field by field. A field that an override names is read from it; one that it
does not name is written, merged with nothing and read again, which gives it back as it was. -/
namespace GraphCompare

namespace Settings

/-- The fields of settings, those of browsing among them. -/
inductive Field
  | synchronizedViews
  | warningThreshold
  | automaticLayout
  | zoomOutFactor
  | enabled
  | childDepth
  | parentDepth
deriving DecidableEq, Repr

variable {s t : Settings} {ms : List (String × Json)} {keys : List SettingKey}

namespace Field

abbrev Value : Field → Type
  | .synchronizedViews | .automaticLayout | .enabled => Bool
  | .warningThreshold | .childDepth | .parentDepth => UInt64
  | .zoomOutFactor => Float

def name : Field → String
  | .synchronizedViews => "synchronizedViews"
  | .warningThreshold => "visibilityWarningThreshold"
  | .automaticLayout => "automaticLayouting"
  | .zoomOutFactor => "zoomOutFactor"
  | .enabled => "enabled"
  | .childDepth => "childDepth"
  | .parentDepth => "parentDepth"

def value (s : Settings) : (f : Field) → f.Value
  | .synchronizedViews => s.synchronizedViews
  | .warningThreshold => s.warningThreshold
  | .automaticLayout => s.automaticLayout
  | .zoomOutFactor => s.zoomOutFactor
  | .enabled => s.browsing.enabled
  | .childDepth => s.browsing.childDepth
  | .parentDepth => s.browsing.parentDepth

def read : (f : Field) → Doc → Option f.Value
  | .synchronizedViews | .automaticLayout | .enabled => Doc.bool?
  | .warningThreshold | .childDepth | .parentDepth => Doc.count?
  | .zoomOutFactor => Doc.float?

def write : (f : Field) → f.Value → Json
  | .synchronizedViews | .automaticLayout | .enabled => Json.bool
  | .warningThreshold | .childDepth | .parentDepth => Json.ofCount
  | .zoomOutFactor => Json.ofFloat

/-- The members of the object that the fields of browsing are in. -/
def browsingMembers (ms : List (String × Json)) : List (String × Json) :=
  match Json.lookup "proximity" ms with
  | some (.object inner) => inner
  | _ => []

/-- The members that a field is one of. -/
def within (ms : List (String × Json)) : Field → List (String × Json)
  | .enabled | .childDepth | .parentDepth => browsingMembers ms
  | .synchronizedViews | .warningThreshold | .automaticLayout | .zoomOutFactor => ms

/-- What an object gives for a field. -/
def named? (ms : List (String × Json)) (f : Field) : Option Json :=
  Json.lookup f.name (f.within ms)

/-- The value of a field by what an object gives for it, with a value for when that is nothing. -/
def chosen (f : Field) (default : f.Value) (j? : Option Json) : Option f.Value :=
  j?.elim (some default) fun j => f.read j.toDoc

theorem write_ne_object (f : Field) (v : f.Value) (inner : List (String × Json)) :
    f.write v ≠ .object inner := by
  cases f with
  | zoomOutFactor =>
    change Json.ofFloat v ≠ .object inner
    unfold Json.ofFloat
    split <;> exact nofun
  | _ => exact nofun

end Field

/-- Settings by their fields. -/
def ofValues (v : (f : Field) → f.Value) : Settings where
  synchronizedViews := v .synchronizedViews
  warningThreshold := v .warningThreshold
  automaticLayout := v .automaticLayout
  zoomOutFactor := v .zoomOutFactor
  browsing := ⟨v .enabled, v .childDepth, v .parentDepth⟩

@[simp] theorem value_ofValues (v : (f : Field) → f.Value) (f : Field) :
    f.value (ofValues v) = v f := by
  cases f <;> rfl

/-- An object of settings, which may leave out fields and have other members: no name occurs
twice in it, nor in the object of browsing, if there is one. -/
structure IsPartial (ms : List (String × Json)) : Prop where
  distinct : Json.Distinct ms
  browsing : ∀ j, Json.lookup "proximity" ms = some j →
    ∃ inner, j = .object inner ∧ Json.Distinct inner

/-- Any object that is read has distinct names, so only the browsing in it has to be an object. -/
theorem isPartial_of_toJson? {d : Doc} (h : d.toJson? = some (.object ms))
    (hbrowsing : ∀ j, Json.lookup "proximity" ms = some j → ∃ inner, j = .object inner) :
    IsPartial ms where
  distinct := Doc.distinct_of_toJsonWithin h
  browsing := by
    intro j hj
    obtain ⟨inner, rfl⟩ := hbrowsing j hj
    obtain ⟨k, d', hread⟩ := Doc.exists_toJsonWithin h hj
    exact ⟨inner, rfl, Doc.distinct_of_toJsonWithin hread⟩

/-- The members of settings as they are written. -/
def members (s : Settings) : List (String × Json) :=
  [("synchronizedViews", .bool s.synchronizedViews),
   ("visibilityWarningThreshold", .ofCount s.warningThreshold),
   ("automaticLayouting", .bool s.automaticLayout),
   ("zoomOutFactor", .ofFloat s.zoomOutFactor), ("proximity", s.browsing.toJson)]

theorem named?_members (s : Settings) (f : Field) :
    f.named? s.members = some (f.write (f.value s)) := by
  cases f <;> rfl

theorem distinct_members (s : Settings) : Json.Distinct s.members := by
  change List.Nodup ["synchronizedViews", "visibilityWarningThreshold", "automaticLayouting",
    "zoomOutFactor", "proximity"]
  decide

theorem distinct_browsing (s : Settings) : Json.Distinct (Field.browsingMembers s.members) := by
  change List.Nodup ["enabled", "childDepth", "parentDepth"]
  decide

theorem IsPartial.distinct_within (h : IsPartial ms) (f : Field) : Json.Distinct (f.within ms) := by
  have hinner : Json.Distinct (Field.browsingMembers ms) := by
    unfold Field.browsingMembers
    split
    · rename_i inner hlookup
      obtain ⟨_, heq, hdistinct⟩ := h.browsing _ hlookup
      cases heq
      exact hdistinct
    · exact List.nodup_nil
  cases f with
  | enabled | childDepth | parentDepth => exact hinner
  | synchronizedViews | warningThreshold | automaticLayout | zoomOutFactor => exact h.distinct

/-- Settings have an object of browsing, so that one in the override is merged with it. -/
theorem lookup_browsing (h : IsPartial ms) (s : Settings) :
    Json.lookup "proximity" (Json.mergeMembers s.members ms) =
      some (.object
        (Json.mergeMembers (Field.browsingMembers s.members) (Field.browsingMembers ms))) := by
  rw [Json.lookup_mergeMembers h.distinct]
  cases hms : Json.lookup "proximity" ms with
  | none =>
    have hinner : Field.browsingMembers ms = [] := by rw [Field.browsingMembers, hms]
    rw [hinner]
    rfl
  | some j =>
    obtain ⟨inner, rfl, _⟩ := h.browsing j hms
    have hinner : Field.browsingMembers ms = inner := by rw [Field.browsingMembers, hms]
    rw [hinner]
    rfl

theorem isPartial_merge (h : IsPartial ms) (s : Settings) :
    IsPartial (Json.mergeMembers s.members ms) where
  distinct := Json.distinct_mergeMembers (distinct_members s) ms
  browsing := by
    intro j hj
    rw [lookup_browsing h] at hj
    cases hj
    exact ⟨_, rfl, Json.distinct_mergeMembers (distinct_browsing s) _⟩

theorem within_merge (h : IsPartial ms) (s : Settings) (f : Field) :
    f.within (Json.mergeMembers s.members ms) =
      Json.mergeMembers (f.within s.members) (f.within ms) := by
  have hbrowsing : Field.browsingMembers (Json.mergeMembers s.members ms) =
      Json.mergeMembers (Field.browsingMembers s.members) (Field.browsingMembers ms) := by
    rw [Field.browsingMembers, lookup_browsing h]
  cases f with
  | enabled | childDepth | parentDepth => exact hbrowsing
  | synchronizedViews | warningThreshold | automaticLayout | zoomOutFactor => rfl

/-- In the merged object a field is what the override gives for it, or what was written. -/
theorem named?_merge (h : IsPartial ms) (s : Settings) (f : Field) :
    f.named? (Json.mergeMembers s.members ms) =
      some ((f.named? ms).getD (f.write (f.value s))) := by
  have hwritten : Json.lookup f.name (f.within s.members) = some (f.write (f.value s)) :=
    named?_members s f
  rw [Field.named?, within_merge h, Json.lookup_mergeMembers (h.distinct_within f), hwritten,
    Field.named?]
  cases Json.lookup f.name (f.within ms) with
  | none => rfl
  | some j => simp [Json.merge_of_not_object (f.write_ne_object (f.value s))]

theorem ofDoc?_browsing (h : Json.Distinct ms) (b : Browsing) :
    Browsing.ofDoc? (Json.object ms).toDoc = some b ↔
      Field.enabled.chosen false (Json.lookup "enabled" ms) = some b.enabled ∧
      Field.childDepth.chosen 2 (Json.lookup "childDepth" ms) = some b.childDepth ∧
      Field.parentDepth.chosen 2 (Json.lookup "parentDepth" ms) = some b.parentDepth := by
  simp only [Browsing.ofDoc?, Doc.fields?_object h, Option.bind_eq_bind, Option.bind_some,
    Doc.optional_known, List.mem_cons, true_or, or_true, Option.bind_eq_some_iff]
  constructor
  · rintro ⟨a, ha, b, hb, c, hc, heq⟩
    cases heq
    exact ⟨ha, hb, hc⟩
  · rintro ⟨ha, hb, hc⟩
    exact ⟨_, ha, _, hb, _, hc, rfl⟩

/-- Without an object of browsing its fields have their defaults, as in an empty one. -/
theorem browsing_of_partial (h : IsPartial ms) :
    ((Json.lookup "proximity" ms).elim (some {}) fun j => Browsing.ofDoc? j.toDoc) =
      Browsing.ofDoc? (Json.object (Field.browsingMembers ms)).toDoc := by
  unfold Field.browsingMembers
  cases hms : Json.lookup "proximity" ms with
  | none => rfl
  | some j =>
    obtain ⟨inner, rfl, _⟩ := h.browsing j hms
    rfl

/-- Settings are read field by field; what is not there has its default. -/
theorem ofDoc?_object (h : IsPartial ms) :
    ofDoc? (Json.object ms).toDoc = some t ↔
      ∀ f : Field, f.chosen (f.value {}) (f.named? ms) = some (f.value t) := by
  have hinner := h.distinct_within .enabled
  simp only [ofDoc?, Doc.fields?_object h.distinct, Option.bind_eq_bind, Option.bind_some,
    Doc.optional_known, List.mem_cons, true_or, or_true, browsing_of_partial h,
    Option.bind_eq_some_iff]
  constructor
  · rintro ⟨a, ha, b, hb, c, hc, d, hd, browsing, hbrowsing, heq⟩ f
    cases heq
    obtain ⟨henabled, hchild, hparent⟩ := (ofDoc?_browsing hinner browsing).mp hbrowsing
    cases f with
    | synchronizedViews => exact ha
    | warningThreshold => exact hb
    | automaticLayout => exact hc
    | zoomOutFactor => exact hd
    | enabled => exact henabled
    | childDepth => exact hchild
    | parentDepth => exact hparent
  · intro hf
    have hbrowsing := (ofDoc?_browsing hinner t.browsing).mpr
      ⟨hf .enabled, hf .childDepth, hf .parentDepth⟩
    exact ⟨_, hf .synchronizedViews, _, hf .warningThreshold, _, hf .automaticLayout, _,
      hf .zoomOutFactor, _, hbrowsing, rfl⟩

theorem isFinite_of_isValid (hs : s.isValid = true) : s.zoomOutFactor.isFinite = true := by
  obtain ⟨hpos, hlt⟩ := isValid_iff.mp hs
  exact Scalar.isFinite_of_pos_of_lt_one hpos hlt

/-- Every field of valid settings is restored by reading what has been written of it. -/
theorem read_write (hs : s.isValid = true) (f : Field) :
    f.read (f.write (f.value s)).toDoc = some (f.value s) := by
  cases f with
  | zoomOutFactor =>
    change Doc.float? (Json.ofFloat s.zoomOutFactor).toDoc = some s.zoomOutFactor
    rw [Json.ofFloat, if_pos (isFinite_of_isValid hs)]
    rfl
  | _ => rfl

theorem chosen_merge (hs : s.isValid = true) (h : IsPartial ms) (f : Field) :
    f.chosen (f.value {}) (f.named? (Json.mergeMembers s.members ms)) =
      f.chosen (f.value s) (f.named? ms) := by
  rw [named?_merge h]
  cases f.named? ms with
  | none => exact read_write hs f
  | some j => rfl

theorem ofDoc?_merge (hs : s.isValid = true) (h : IsPartial ms) :
    ofDoc? (s.toJson.merge (.object ms)).toDoc = some t ↔
      ∀ f : Field, f.chosen (f.value s) (f.named? ms) = some (f.value t) := by
  change ofDoc? (Json.object (Json.mergeMembers s.members ms)).toDoc = some t ↔ _
  simp only [ofDoc?_object (isPartial_merge h s), chosen_merge hs h]

theorem checked_eq_ok_iff {s? : Option Settings} :
    checked s? = .ok t ↔ s? = some t ∧ t.isValid = true := by
  constructor
  · intro h
    have hvalid := isValid_of_checked h
    cases s? with
    | none => cases h
    | some u =>
      simp only [checked, validate] at h
      split at h
      · cases h
        exact ⟨rfl, hvalid⟩
      · cases h
  · rintro ⟨rfl, hvalid⟩
    simp [checked, validate, hvalid, Except.map]

/-- An override succeeds with those settings whose fields it chooses. -/
theorem override_eq_ok_iff (hs : s.isValid = true) (h : IsPartial ms) :
    s.override (.object ms) = .ok (keys, t) ↔
      (∀ f : Field, f.chosen (f.value s) (f.named? ms) = some (f.value t)) ∧
        t.isValid = true ∧ keys = s.changedKeys t := by
  rw [← ofDoc?_merge hs h, ← and_assoc, ← checked_eq_ok_iff]
  unfold override
  cases checked (ofDoc? (s.toJson.merge (.object ms)).toDoc) with
  | error e => exact iff_of_false nofun nofun
  | ok u =>
    simp only [Except.map, Except.ok.injEq, Prod.mk.injEq]
    constructor
    · rintro ⟨rfl, rfl⟩
      exact ⟨rfl, rfl⟩
    · rintro ⟨rfl, rfl⟩
      exact ⟨rfl, rfl⟩

theorem changedKeys_self (hs : s.isValid = true) : s.changedKeys s = [] := by
  rw [List.eq_nil_iff_forall_not_mem]
  intro key hkey
  exact not_differs_self s key ((mem_changedKeys hs).mp hkey)

/-- What an override makes of settings, field by field. -/
structure MergesFields (s : Settings) (ms : List (String × Json)) : Prop where
  accepted_iff : (∃ change, s.override (.object ms) = .ok change) ↔
    (∀ f j, Field.named? ms f = some j → ∃ v, f.read j.toDoc = some v) ∧
      ∃ x, Field.zoomOutFactor.chosen s.zoomOutFactor (Field.zoomOutFactor.named? ms) = some x ∧
        0 < x ∧ x < 1
  named : ∀ keys t, s.override (.object ms) = .ok (keys, t) →
    ∀ f j, Field.named? ms f = some j → f.read j.toDoc = some (f.value t)
  unnamed : ∀ keys t, s.override (.object ms) = .ok (keys, t) →
    ∀ f, Field.named? ms f = none → f.value t = f.value s
  again : ∀ keys t, s.override (.object ms) = .ok (keys, t) → t.override (.object ms) = .ok ([], t)
  /-- Nothing but what it gives for the fields matters. -/
  others : ∀ ms', IsPartial ms' → (∀ f, Field.named? ms' f = Field.named? ms f) →
    s.override (.object ms') = s.override (.object ms)

theorem mergesFields_of_partial (hs : s.isValid = true) (h : IsPartial ms) : MergesFields s ms where
  accepted_iff := by
    constructor
    · rintro ⟨⟨keys, t⟩, hok⟩
      obtain ⟨hchosen, hvalid, _⟩ := (override_eq_ok_iff hs h).mp hok
      refine ⟨?_, _, hchosen .zoomOutFactor, isValid_iff.mp hvalid⟩
      intro f j hj
      have hf := hchosen f
      rw [hj] at hf
      exact ⟨_, hf⟩
    · rintro ⟨hread, x, hx, hbetween⟩
      have hexists : ∀ f : Field, ∃ v, f.chosen (f.value s) (f.named? ms) = some v := by
        intro f
        cases hj : f.named? ms with
        | none => exact ⟨_, rfl⟩
        | some j => exact hread f j hj
      choose v hv using hexists
      have hfactor : v .zoomOutFactor = x := Option.some.inj ((hv .zoomOutFactor).symm.trans hx)
      refine ⟨(_, ofValues v), (override_eq_ok_iff hs h).mpr ⟨?_, ?_, rfl⟩⟩
      · intro f
        rw [hv, value_ofValues]
      · subst hfactor
        exact isValid_iff.mpr hbetween
  named := by
    intro keys t hok f j hj
    have hf := ((override_eq_ok_iff hs h).mp hok).1 f
    rw [hj] at hf
    exact hf
  unnamed := by
    intro keys t hok f hnone
    have hf := ((override_eq_ok_iff hs h).mp hok).1 f
    rw [hnone] at hf
    exact (Option.some.inj hf).symm
  again := by
    intro keys t hok
    obtain ⟨hchosen, hvalid, _⟩ := (override_eq_ok_iff hs h).mp hok
    refine (override_eq_ok_iff hvalid h).mpr ⟨?_, hvalid, (changedKeys_self hvalid).symm⟩
    intro f
    have hf := hchosen f
    cases hj : f.named? ms with
    | none => rfl
    | some j =>
      rw [hj] at hf
      exact hf
  others := by
    intro ms' h' hsame
    have hmerged : ofDoc? (s.toJson.merge (.object ms')).toDoc =
        ofDoc? (s.toJson.merge (.object ms)).toDoc := by
      apply Option.ext
      intro t
      simp only [ofDoc?_merge hs h', ofDoc?_merge hs h, hsame]
    rw [override, override, hmerged]

/-- Valid settings take from an override the fields that it names, if all of them can be read and
the factor comes out valid, and they keep the others; an empty override keeps everything. -/
theorem mergesFields (hs : s.isValid = true) :
    (∀ ms, IsPartial ms → MergesFields s ms) ∧ s.override (.object []) = .ok ([], s) := by
  have hempty : IsPartial [] := ⟨List.nodup_nil, nofun⟩
  refine ⟨fun ms h => mergesFields_of_partial hs h, (override_eq_ok_iff hs hempty).mpr ?_⟩
  refine ⟨?_, hs, (changedKeys_self hs).symm⟩
  intro f
  cases f <;> rfl

/-- The factor is given twice, and there are members that are no fields. -/
def sampleOverride : Doc :=
  .object
    [(some "zoomOutFactor", .number (some (.real 2))),
     (some "proximity", .object
       [(some "childDepth", .number (some (.unsigned 7))), (some "siblings", .bool true)]),
     (some "enabled", .array [.null]), (some "zoomOutFactor", .number (some (.real 0.25)))]

/-- The largest count is kept. -/
theorem mergesFields_sample : ∃ s ms keys t, s.isValid = true ∧
    sampleOverride.toJson? = some (.object ms) ∧ MergesFields s ms ∧
    s.override (.object ms) = .ok (keys, t) ∧ keys = [.zoomOutFactor, .proximityDepth] ∧
    t.browsing = ⟨true, 7, 18446744073709551615⟩ ∧ t.override (.object ms) = .ok ([], t) := by
  let s : Settings := { browsing := ⟨true, 2, 18446744073709551615⟩ }
  let ms : List (String × Json) :=
    [("zoomOutFactor", .number (.real 0.25)),
     ("proximity", .object [("childDepth", .ofCount 7), ("siblings", .bool true)]),
     ("enabled", .array [.null])]
  have hs : s.isValid = true := by decide +kernel
  have hread : sampleOverride.toJson? = some (.object ms) := rfl
  have hpartial : IsPartial ms := by
    apply isPartial_of_toJson? hread
    rintro j ⟨⟩
    exact ⟨_, rfl⟩
  have hrun : (s.override (.object ms)).toOption.any (fun change =>
      change.1 = [.zoomOutFactor, .proximityDepth] ∧
        change.2.browsing = ⟨true, 7, 18446744073709551615⟩) = true := by decide +kernel
  have hmerges := (mergesFields hs).1 ms hpartial
  cases hok : s.override (.object ms) with
  | error f =>
    rw [hok] at hrun
    cases hrun
  | ok change =>
    obtain ⟨keys, t⟩ := change
    rw [hok] at hrun
    obtain ⟨hkeys, hbrowsing⟩ := of_decide_eq_true hrun
    exact ⟨s, ms, keys, t, hs, hread, hmerges, hok, hkeys, hbrowsing, hmerges.again keys t hok⟩

end Settings

end GraphCompare
