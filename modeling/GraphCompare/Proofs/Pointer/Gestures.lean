import GraphCompare.Proofs.Pointer.Run

/-! The commands of the pointer machine are the completed gestures: a press, what is dragged while
the button is down, and the release. -/
namespace GraphCompare.Machine
variable {α : Type} {events : List (Input α)} {g g' : Gesture α} {hit : Hit} {b : Button}
  {on : Spot} {action : Action} {p q : Point α} {c : Command α} {j k : Nat}

/-- Event `k` is the gesture `g`, and does this. -/
def Comes (events : List (Input α)) (k : Nat) (action : Action) (g : Gesture α) : Prop :=
  ∃ hit, events[k]? = some (g, hit) ∧ g.action = action

def Released (events : List (Input α)) (k : Nat) (b : Button) : Prop :=
  ∃ g, Comes events k .released g ∧ g.button = b

/-- The place of the latest drag before `k`, or of the press at `j` if nothing was dragged since. -/
def LastPlace (events : List (Input α)) (j k : Nat) (p : Point α) : Prop :=
  ∃ i g hit, j ≤ i ∧ i < k ∧ events[i]? = some (g, hit) ∧ g.position = p ∧
    (i = j ∨ g.action = .dragged) ∧ ∀ l, i < l → l < k → ∀ g', ¬ Comes events l .dragged g'

theorem comes_iff (h : events[k]? = some (g, hit)) :
    Comes events k action g' ↔ g = g' ∧ g.action = action := by
  simp only [Comes, h, Option.some.injEq, Prod.mk.injEq]
  constructor
  · rintro ⟨-, ⟨rfl, -⟩, hg⟩
    exact ⟨rfl, hg⟩
  · rintro ⟨rfl, hg⟩
    exact ⟨hit, ⟨rfl, rfl⟩, hg⟩

theorem not_comes_of_end (h : events[k]? = none) : ¬ Comes events k action g := by
  simp [Comes, h]

theorem released_iff (h : events[k]? = some (g, hit)) :
    Released events k b ↔ g.action = .released ∧ g.button = b := by
  simp only [Released, comes_iff h]
  constructor
  · rintro ⟨_, ⟨rfl, haction⟩, hbutton⟩
    exact ⟨haction, hbutton⟩
  · rintro ⟨haction, hbutton⟩
    exact ⟨g, ⟨rfl, haction⟩, hbutton⟩

theorem not_released_of_end (h : events[k]? = none) : ¬ Released events k b :=
  fun ⟨_, hcomes, _⟩ => not_comes_of_end h hcomes

theorem lastPlace_of_dragged (h : Comes events k .dragged g) (hj : j ≤ k) :
    LastPlace events j (k + 1) g.position := by
  obtain ⟨hit, hk, haction⟩ := h
  exact ⟨k, g, hit, hj, Nat.lt_succ_self k, hk, rfl, .inr haction, fun l _ _ => by omega⟩

theorem lastPlace_succ (h : LastPlace events j k p) (hstill : ∀ g, ¬ Comes events k .dragged g) :
    LastPlace events j (k + 1) p := by
  obtain ⟨i, g, hit, hj, hi, hg, hp, haction, hlast⟩ := h
  refine ⟨i, g, hit, hj, by omega, hg, hp, haction, fun l h1 h2 => ?_⟩
  rcases Nat.lt_succ_iff_lt_or_eq.mp h2 with hlt | rfl
  · exact hlast l h1 hlt
  · exact hstill

/-- The later of two places would be a drag that the earlier one leaves out. -/
theorem lastPlace_unique (hp : LastPlace events j k p) (hq : LastPlace events j k q) : p = q := by
  obtain ⟨i, g, hit, hj, hi, hg, rfl, haction, hlast⟩ := hp
  obtain ⟨i', g', hit', hj', hi', hg', rfl, haction', hlast'⟩ := hq
  have hle : i' ≤ i := by
    refine Nat.le_of_not_lt fun hlt => ?_
    have hdragged : g'.action = .dragged := haction'.resolve_left (by omega)
    exact hlast i' hlt hi' g' ((comes_iff hg').mpr ⟨rfl, hdragged⟩)
  have hge : i ≤ i' := by
    refine Nat.le_of_not_lt fun hlt => ?_
    have hdragged : g.action = .dragged := haction.resolve_left (by omega)
    exact hlast' i hlt hi g ((comes_iff hg).mpr ⟨rfl, hdragged⟩)
  obtain rfl : i = i' := Nat.le_antisymm hge hle
  rw [hg, Option.some.injEq, Prod.mk.injEq] at hg'
  rw [hg'.1]

variable [Scalar α]

/-- The machine before event `k`, fed from the start. -/
def before (events : List (Input α)) (k : Nat) : Machine α :=
  (events.take k).foldl (fun m i => (m.handle i.1 i.2).2) initial

def Emits (events : List (Input α)) (k : Nat) (c : Command α) : Prop :=
  ∃ i, events[k]? = some i ∧ ((before events k).handle i.1 i.2).1.command = some c

/-- Event `k` is a press that is taken. -/
def Accepted (events : List (Input α)) (k : Nat) (b : Button) (hit : Hit) : Prop :=
  ∃ g, events[k]? = some (g, hit) ∧ g.action = .pressed ∧ g.button = b ∧
    (before events k).mode.TakesPress

/-- A press that was taken at `j`, with no release of its button between `j` and `k`. -/
structure Held (events : List (Input α)) (b : Button) (on : Spot) (j k : Nat) : Prop where
  earlier : j < k
  opened : Accepted events j b (some on)
  kept : ∀ i, j < i → i < k → ¬ Released events i b

def PannedBetween (events : List (Input α)) (j k : Nat) : Prop :=
  ∃ i d, j < i ∧ i < k ∧ Emits events i (.pan d)

theorem before_succ (h : events[k]? = some (g, hit)) :
    before events (k + 1) = ((before events k).handle g hit).2 := by
  simp [before, List.take_add_one, h]

theorem before_succ_of_end (h : events[k]? = none) : before events (k + 1) = before events k := by
  simp [before, List.take_add_one, h]

theorem anchored_before (events : List (Input α)) (k : Nat) : (before events k).Anchored := by
  induction k with
  | zero => exact anchored_initial
  | succ k ih =>
    cases hk : events[k]? with
    | none => rwa [before_succ_of_end hk]
    | some i =>
      rw [before_succ hk]
      exact anchored_handle ih i.1 i.2

theorem emits_iff (h : events[k]? = some (g, hit)) :
    Emits events k c ↔ ((before events k).handle g hit).1.command = some c := by
  simp [Emits, h]

theorem not_emits_of_end (h : events[k]? = none) : ¬ Emits events k c := by
  simp [Emits, h]

theorem accepted_iff (h : events[k]? = some (g, hit)) :
    Accepted events k b (some on) ↔
      g.action = .pressed ∧ g.button = b ∧ hit = some on ∧ (before events k).mode.TakesPress := by
  simp only [Accepted, h, Option.some.injEq, Prod.mk.injEq]
  constructor
  · rintro ⟨_, ⟨rfl, rfl⟩, haction, hbutton, htakes⟩
    exact ⟨haction, hbutton, rfl, htakes⟩
  · rintro ⟨haction, hbutton, rfl, htakes⟩
    exact ⟨g, ⟨rfl, rfl⟩, haction, hbutton, htakes⟩

theorem not_accepted_of_end (h : events[k]? = none) : ¬ Accepted events k b hit := by
  simp [Accepted, h]

/-- What is held after an event was held before it and is not released, or is pressed by it. -/
theorem held_succ :
    Held events b on j (k + 1) ↔
      (Held events b on j k ∧ ¬ Released events k b) ∨ (j = k ∧ Accepted events k b (some on)) := by
  constructor
  · intro h
    rcases Nat.lt_succ_iff_lt_or_eq.mp h.earlier with hlt | rfl
    · have hheld : Held events b on j k := ⟨hlt, h.opened, fun i hj hi => h.kept i hj (by omega)⟩
      exact .inl ⟨hheld, h.kept k hlt (Nat.lt_succ_self k)⟩
    · exact .inr ⟨rfl, h.opened⟩
  · rintro (⟨h, hkept⟩ | ⟨rfl, hopened⟩)
    · refine ⟨Nat.lt_succ_of_lt h.earlier, h.opened, fun i hj hi => ?_⟩
      rcases Nat.lt_succ_iff_lt_or_eq.mp hi with hlt | rfl
      · exact h.kept i hj hlt
      · exact hkept
    · exact ⟨Nat.lt_succ_self j, hopened, fun i _ _ => by omega⟩

/-- The mode of a run is pressed exactly where a press is held. -/
theorem mode_before : (before events k).mode = .pressed b on ↔ ∃ j, Held events b on j k := by
  induction k with
  | zero =>
    refine iff_of_false (by simp [before, initial]) ?_
    rintro ⟨j, h⟩
    exact Nat.not_lt_zero j h.earlier
  | succ k ih =>
    have hsplit : (∃ j, Held events b on j (k + 1)) ↔
        ((before events k).mode = .pressed b on ∧ ¬ Released events k b) ∨
          Accepted events k b (some on) := by
      simp only [held_succ, exists_or, exists_and_right, ← ih, exists_eq, true_and]
    rw [hsplit]
    cases hk : events[k]? with
    | none =>
      rw [before_succ_of_end hk]
      simp [not_released_of_end hk, not_accepted_of_end hk]
    | some i => rw [before_succ hk, mode_handle, released_iff hk, accepted_iff hk]

theorem pannedBetween_succ (h : j < k) :
    PannedBetween events j (k + 1) ↔ PannedBetween events j k ∨ ∃ d, Emits events k (.pan d) := by
  constructor
  · rintro ⟨i, d, hj, hi, hemits⟩
    rcases Nat.lt_succ_iff_lt_or_eq.mp hi with hlt | rfl
    · exact .inl ⟨i, d, hj, hlt, hemits⟩
    · exact .inr ⟨d, hemits⟩
  · rintro (⟨i, d, hj, hi, hemits⟩ | ⟨d, hemits⟩)
    · exact ⟨i, d, hj, Nat.lt_succ_of_lt hi, hemits⟩
    · exact ⟨k, d, h, Nat.lt_succ_self k, hemits⟩

/-- What the machine remembers of a drag of the background since the press at `j`. -/
def Tracks (events : List (Input α)) (j k : Nat) : Prop :=
  ∃ p, LastPlace events j k p ∧ (before events k).anchor = some p ∧
    ((before events k).panned = true ↔ PannedBetween events j k)

theorem tracks_of_press (h : Accepted events j .left (some .background)) :
    Tracks events j (j + 1) := by
  obtain ⟨g, hj, haction, hbutton, htakes⟩ := h
  have hstart : before events (j + 1) = ⟨.pressed .left .background, some g.position, false⟩ := by
    rw [before_succ hj]
    simp [handle, haction, press_of_takes htakes, hbutton, Mode.press]
  refine ⟨g.position, ?_, by rw [hstart], ?_⟩
  · exact ⟨j, g, _, Nat.le_refl j, Nat.lt_succ_self j, hj, rfl, .inl rfl, fun l _ _ => by omega⟩
  · refine iff_of_false (by simp [hstart]) ?_
    rintro ⟨i, d, h1, h2, -⟩
    omega

theorem tracks_succ (h : Tracks events j k) (hjk : j < k) (hkept : ¬ Released events k .left) :
    Tracks events j (k + 1) := by
  obtain ⟨p, hplace, hanchor, hpanned⟩ := h
  unfold Tracks
  rw [pannedBetween_succ hjk, ← hpanned]
  cases hk : events[k]? with
  | none =>
    refine ⟨p, lastPlace_succ hplace fun g => not_comes_of_end hk, ?_⟩
    simp [before_succ_of_end hk, hanchor, not_emits_of_end hk]
  | some i =>
    rw [released_iff hk] at hkept
    obtain ⟨hnext, hpan⟩ := handle_of_anchor (anchored_before events k) hanchor hkept i.2
    simp only [before_succ hk, emits_iff hk]
    refine ⟨_, ?_, hnext, hpan⟩
    by_cases hdragged : i.1.action = .dragged
    · rw [if_pos hdragged]
      exact lastPlace_of_dragged ⟨i.2, hk, hdragged⟩ (Nat.le_of_lt hjk)
    · rw [if_neg hdragged]
      exact lastPlace_succ hplace fun g hcomes => hdragged ((comes_iff hk).mp hcomes).2

theorem tracks_of_held (h : Held events .left .background j k) : Tracks events j k := by
  induction k with
  | zero => exact absurd h.earlier (Nat.not_lt_zero j)
  | succ k ih =>
    rcases held_succ.mp h with ⟨hheld, hkept⟩ | ⟨rfl, hopened⟩
    · exact tracks_succ (ih hheld) hheld.earlier hkept
    · exact tracks_of_press hopened

/-- A command comes from releasing what is held, or from a drag of the background. -/
theorem emits_iff_completed :
    Emits events k c ↔
      (∃ g on j, Comes events k .released g ∧ Held events g.button on j k ∧
        (before events k).clickCommand g (.clicked g.button on) = some c) ∨
      (∃ g j p, Comes events k .dragged g ∧ Held events .left .background j k ∧
        LastPlace events j k p ∧ (g.position.minus p).isZero = false ∧
        c = .pan (g.position.minus p)) := by
  cases hk : events[k]? with
  | none => simp [not_emits_of_end hk, not_comes_of_end hk]
  | some i =>
    rw [emits_iff hk, command_handle]
    simp only [comes_iff hk]
    constructor
    · rintro (⟨haction, on, hm, hc⟩ | ⟨haction, -, p, hp, hz, rfl⟩)
      · obtain ⟨j, hheld⟩ := mode_before.mp hm
        exact .inl ⟨i.1, on, j, ⟨rfl, haction⟩, hheld, hc⟩
      · obtain ⟨j, hheld⟩ := mode_before.mp (anchored_before events k (by simp [hp]))
        obtain ⟨q, hplace, hq, -⟩ := tracks_of_held hheld
        obtain rfl : p = q := Option.some.inj (hp.symm.trans hq)
        exact .inr ⟨i.1, j, p, ⟨rfl, haction⟩, hheld, hplace, hz, rfl⟩
    · rintro (⟨_, on, j, ⟨rfl, haction⟩, hheld, hc⟩ |
        ⟨_, j, p, ⟨rfl, haction⟩, hheld, hplace, hz, rfl⟩)
      · exact .inl ⟨haction, on, mode_before.mpr ⟨j, hheld⟩, hc⟩
      · obtain ⟨q, hlast, hq, -⟩ := tracks_of_held hheld
        obtain rfl := lastPlace_unique hplace hlast
        have hm : (before events k).mode = .pressed .left .background :=
          mode_before.mpr ⟨j, hheld⟩
        exact .inr ⟨haction, by simp [hm, Mode.isPressed], p, hq, hz, rfl⟩

/-- Which gestures lead to which command at event `k`. -/
structure EmitsGestures (events : List (Input α)) (k : Nat) : Prop where
  select : ∀ n additive, Emits events k (.select n additive) ↔
    ∃ g j, Comes events k .released g ∧ g.button = .left ∧ (g.shift || g.ctrl) = additive ∧
      Held events .left (.node n) j k
  pan : ∀ d, Emits events k (.pan d) ↔
    ∃ g j p, Comes events k .dragged g ∧ Held events .left .background j k ∧
      LastPlace events j k p ∧ d = g.position.minus p ∧ d.isZero = false
  clear : Emits events k .clear ↔
    Released events k .left ∧ ∃ j, Held events .left .background j k ∧ ¬ PannedBetween events j k
  menu : ∀ h, Emits events k (.menu h) ↔
    Released events k .right ∧ ∃ on j, some on = h ∧ Held events .right on j k

theorem emitsGestures (events : List (Input α)) (k : Nat) : EmitsGestures events k where
  select := by
    intro n additive
    simp only [emits_iff_completed, clickCommand_eq_select]
    constructor
    · rintro (⟨g, _, j, hcomes, hheld, hbutton, rfl, hkeys⟩ | ⟨_, _, _, _, _, _, _, hc⟩)
      · exact ⟨g, j, hcomes, hbutton, hkeys, hbutton ▸ hheld⟩
      · cases hc
    · rintro ⟨g, j, hcomes, hbutton, hkeys, hheld⟩
      exact .inl ⟨g, _, j, hcomes, hbutton.symm ▸ hheld, hbutton, rfl, hkeys⟩
  pan := by
    intro d
    simp only [emits_iff_completed, clickCommand_ne_pan]
    constructor
    · rintro (⟨_, _, _, _, _, hc⟩ | ⟨g, j, p, hcomes, hheld, hplace, hz, hc⟩)
      · exact hc.elim
      · cases hc
        exact ⟨g, j, p, hcomes, hheld, hplace, rfl, hz⟩
    · rintro ⟨g, j, p, hcomes, hheld, hplace, rfl, hz⟩
      exact .inr ⟨g, j, p, hcomes, hheld, hplace, hz, rfl⟩
  clear := by
    simp only [emits_iff_completed, clickCommand_eq_clear]
    constructor
    · rintro (⟨g, _, j, hcomes, hheld, hbutton, rfl, hpanned⟩ | ⟨_, _, _, _, _, _, _, hc⟩)
      · rw [hbutton] at hheld
        obtain ⟨_, _, _, hpans⟩ := tracks_of_held hheld
        exact ⟨⟨g, hcomes, hbutton⟩, j, hheld, by simp [← hpans, hpanned]⟩
      · cases hc
    · rintro ⟨⟨g, hcomes, hbutton⟩, j, hheld, hstill⟩
      obtain ⟨_, _, _, hpans⟩ := tracks_of_held hheld
      have hpanned : (before events k).panned = false := by
        simpa [← hpans] using hstill
      exact .inl ⟨g, _, j, hcomes, hbutton.symm ▸ hheld, hbutton, rfl, hpanned⟩
  menu := by
    intro h
    simp only [emits_iff_completed, clickCommand_eq_menu]
    constructor
    · rintro (⟨g, on, j, hcomes, hheld, hbutton, rfl⟩ | ⟨_, _, _, _, _, _, _, hc⟩)
      · exact ⟨⟨g, hcomes, hbutton⟩, on, j, rfl, hbutton ▸ hheld⟩
      · cases hc
    · rintro ⟨⟨g, hcomes, hbutton⟩, on, j, rfl, hheld⟩
      exact .inl ⟨g, on, j, hcomes, hbutton.symm ▸ hheld, hbutton, rfl⟩

end GraphCompare.Machine
