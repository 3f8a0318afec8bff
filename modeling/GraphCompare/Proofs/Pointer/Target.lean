import GraphCompare.Proofs.Pointer.Gestures

/-! What the mode of the pointer machine is about: what lay under the pointer when the machine last
looked there, or nothing. -/
namespace GraphCompare
variable {α : Type}

/-- On something that stands out while the pointer is on it. -/
def Hit.Hovers : Hit → Prop
  | some (.node _) => True
  | some (.edge _) => True
  | _ => False

namespace Mode
variable {m background : Mode} {b : Button} {on : Spot} {hit : Hit}

theorem target_eq_none : m.target = none ↔ m = .idle := by
  cases m <;> simp [target]

theorem target_press (b : Button) (hit : Hit) : (Mode.press b hit).target = hit := by
  cases hit <;> rfl

theorem target_enter (h : background = .idle ∨ ∃ b, background = .clicked b .background)
    (hit : Hit) :
    enter background hit = .idle ∨ (enter background hit).target = hit := by
  unfold enter
  split
  · exact .inr rfl
  · exact .inr rfl
  · exact h.imp_right fun ⟨_, hb⟩ => hb ▸ rfl
  · exact .inl rfl
  · exact .inl rfl

theorem target_enter_of_hovers (background : Mode) (h : hit.Hovers) :
    (enter background hit).target = hit :=
  match hit, h with
  | some (.node _), _ => rfl
  | some (.edge _), _ => rfl

theorem enter_eq_clicked (h : enter background hit = .clicked b on) :
    background = .clicked b on := by
  unfold enter at h
  split at h
  · cases h
  · cases h
  · exact h
  · cases h
  · cases h

/-- A move stays where it was, or enters a place with nothing or a click to take over the
background. -/
theorem move_cases (h : m.isPressed = false) (hit : Hit) :
    (m.move hit = m ∧ m.target = hit) ∨
      ∃ background, (background = .idle ∨ ∃ b, background = .clicked b .background) ∧
        m.move hit = enter background hit := by
  have hstay : ∀ background, m.stay background hit = m ∧ m.target = hit ∨
      m.stay background hit = enter background hit := by
    intro background
    unfold stay
    split
    · rename_i heq
      exact .inl ⟨rfl, heq⟩
    · exact .inr rfl
  cases m with
  | pressed => cases h
  | idle => exact .inr ⟨.idle, .inl rfl, rfl⟩
  | overNode => exact (hstay .idle).imp_right fun hs => ⟨.idle, .inl rfl, hs⟩
  | overEdge => exact (hstay .idle).imp_right fun hs => ⟨.idle, .inl rfl, hs⟩
  | clicked b on =>
    have hclick : ∃ b', Mode.clicked b .background = .clicked b' .background := ⟨b, rfl⟩
    cases on with
    | node => exact (hstay (.clicked b .background)).imp_right fun hs => ⟨_, .inr hclick, hs⟩
    | edge => exact (hstay (.clicked b .background)).imp_right fun hs => ⟨_, .inr hclick, hs⟩
    | background => exact .inr ⟨_, .inr hclick, rfl⟩
    | bend => exact .inr ⟨_, .inr hclick, rfl⟩

theorem target_move (h : m.isPressed = false) (hit : Hit) :
    m.move hit = .idle ∨ (m.move hit).target = hit := by
  rcases move_cases h hit with ⟨hstay, htarget⟩ | ⟨background, hbackground, henter⟩
  · rw [hstay]
    exact .inr htarget
  · rw [henter]
    exact target_enter hbackground hit

theorem target_move_of_hovers (h : m.isPressed = false) (hhit : hit.Hovers) :
    (m.move hit).target = hit := by
  rcases move_cases h hit with ⟨hstay, htarget⟩ | ⟨background, -, henter⟩
  · rw [hstay, htarget]
  · rw [henter]
    exact target_enter_of_hovers background hhit

/-- By a move no click comes about but one on the background. -/
theorem eq_clicked_of_move (hon : on ≠ .background) (h : m.move hit = .clicked b on) :
    m = .clicked b on := by
  cases hm : m.isPressed with
  | true =>
    cases m <;> simp [isPressed, move] at hm h
  | false =>
    rcases move_cases hm hit with ⟨hstay, -⟩ | ⟨background, hbackground, henter⟩
    · exact hstay.symm.trans h
    · have hclick := enter_eq_clicked (henter.symm.trans h)
      rcases hbackground with rfl | ⟨b', rfl⟩
      · cases hclick
      · cases hclick
        exact (hon rfl).elim

end Mode

namespace Machine
variable {m : Machine α} {g : Gesture α} {hit : Hit} {b : Button} {on : Spot}

theorem press_of_menu (h : m.mode = .clicked .right on) (g : Gesture α) (hit : Hit) :
    m.press g hit = m.become initial none := by
  simp [press, h, Mode.isClicked, Mode.button?]

theorem press_of_held (h : m.mode.isPressed = true) (g : Gesture α) (hit : Hit) :
    m.press g hit = m.ignore := by
  have hclicked : m.mode.isClicked = false := by
    cases hm : m.mode <;> simp_all [Mode.isPressed, Mode.isClicked]
  simp [press, h, hclicked]

/-- A press that is taken, or a move while no button is held: what lies under the pointer counts. -/
def Looks (m : Machine α) (g : Gesture α) : Prop :=
  (g.action = .pressed ∧ m.mode.TakesPress) ∨ (g.action = .moved ∧ m.mode.isPressed = false)

variable [Scalar α]

theorem target_of_looks (h : m.Looks g) (hit : Hit) :
    (m.handle g hit).2.mode = .idle ∨ (m.handle g hit).2.mode.target = hit := by
  rcases h with ⟨haction, htakes⟩ | ⟨haction, hfree⟩
  · simp only [handle, haction, press_of_takes htakes]
    exact .inr (Mode.target_press g.button hit)
  · simp only [handle, haction]
    exact Mode.target_move hfree hit

theorem target_of_hovers (h : m.Looks g) (hhit : hit.Hovers) :
    (m.handle g hit).2.mode.target = hit := by
  rcases h with ⟨haction, htakes⟩ | ⟨haction, hfree⟩
  · simp only [handle, haction, press_of_takes htakes]
    exact Mode.target_press g.button hit
  · simp only [handle, haction]
    exact Mode.target_move_of_hovers hfree hhit

/-- A gesture that does not look leaves what the mode is about, or closes a menu. -/
theorem target_of_not_looks (h : ¬ m.Looks g) (hit : Hit) :
    (m.handle g hit).2.mode.target = m.mode.target ∨
      (g.action = .pressed ∧ (∃ on, m.mode = .clicked .right on) ∧
        (m.handle g hit).2.mode = .idle) := by
  cases haction : g.action with
  | pressed =>
    have htakes : ¬ m.mode.TakesPress := fun ht => h (.inl ⟨haction, ht⟩)
    simp only [handle, haction]
    by_cases hmenu : ∃ on, m.mode = .clicked .right on
    · obtain ⟨on, hm⟩ := hmenu
      rw [press_of_menu hm]
      exact .inr ⟨trivial, ⟨on, hm⟩, rfl⟩
    · have hheld : m.mode.isPressed = true := by
        cases hm : m.mode <;> simp_all [Mode.TakesPress, Mode.isPressed]
      rw [press_of_held hheld]
      exact .inl rfl
  | released =>
    simp only [handle, haction]
    by_cases hheld : ∃ on, m.mode = .pressed g.button on
    · obtain ⟨on, hm⟩ := hheld
      simp [release_of_held hm, become, hm, Mode.target]
    · rw [release_of_not_held fun on hm => hheld ⟨on, hm⟩]
      exact .inl rfl
  | dragged => simp [handle, haction, mode_drag]
  | moved =>
    cases hm : m.mode with
    | pressed b on => simp [handle, haction, move, hm, Mode.move]
    | _ => exact (h (.inr ⟨haction, by simp [hm, Mode.isPressed]⟩)).elim

/-- A click on something else than the background comes from releasing what was pressed. -/
theorem clicked_of_handle (hon : on ≠ .background) (h : (m.handle g hit).2.mode = .clicked b on) :
    m.mode = .clicked b on ∨
      (g.action = .released ∧ g.button = b ∧ m.mode = .pressed b on) := by
  cases haction : g.action with
  | pressed =>
    simp only [handle, haction] at h
    by_cases htakes : m.mode.TakesPress
    · rw [press_of_takes htakes] at h
      cases hit <;> cases h
    · rcases press_of_not_takes htakes g hit with hstay | ⟨-, hclosed⟩
      · exact .inl (hstay ▸ h)
      · rw [hclosed] at h
        cases h
  | released =>
    simp only [handle, haction] at h
    by_cases hheld : ∃ on, m.mode = .pressed g.button on
    · obtain ⟨on', hm⟩ := hheld
      rw [release_of_held hm] at h
      cases h
      exact .inr ⟨rfl, rfl, hm⟩
    · rw [release_of_not_held fun on hm => hheld ⟨on, hm⟩] at h
      exact .inl h
  | dragged =>
    simp only [handle, haction, mode_drag] at h
    exact .inl h
  | moved =>
    simp only [handle, haction, move] at h
    exact .inl (Mode.eq_clicked_of_move hon h)

section run
variable {events : List (Input α)} {i k : Nat}

/-- Event `k` looks at what lies under the pointer, which is `hit`. -/
def LooksAt (events : List (Input α)) (k : Nat) (hit : Hit) : Prop :=
  ∃ g, events[k]? = some (g, hit) ∧ (before events k).Looks g

/-- The latest event before `k` that looks is `i`. -/
structure LastLook (events : List (Input α)) (i k : Nat) (hit : Hit) : Prop where
  earlier : i < k
  looks : LooksAt events i hit
  none_since : ∀ j, i < j → j < k → ∀ h, ¬ LooksAt events j h

/-- Event `k` is a press while a menu is open. -/
def ClosesMenu (events : List (Input α)) (k : Nat) : Prop :=
  ∃ g hit on, events[k]? = some (g, hit) ∧ g.action = .pressed ∧
    (before events k).mode = .clicked .right on

theorem looksAt_iff {h : Hit} (hk : events[k]? = some (g, hit)) :
    LooksAt events k h ↔ hit = h ∧ (before events k).Looks g := by
  simp only [LooksAt, hk, Option.some.injEq, Prod.mk.injEq]
  constructor
  · rintro ⟨_, ⟨rfl, rfl⟩, hlooks⟩
    exact ⟨rfl, hlooks⟩
  · rintro ⟨rfl, hlooks⟩
    exact ⟨g, ⟨rfl, rfl⟩, hlooks⟩

theorem not_looksAt_of_end (hk : events[k]? = none) : ¬ LooksAt events k hit := by
  simp [LooksAt, hk]

theorem lastLook_succ :
    LastLook events i (k + 1) hit ↔
      (i = k ∧ LooksAt events k hit) ∨
        (LastLook events i k hit ∧ ∀ h, ¬ LooksAt events k h) := by
  constructor
  · intro h
    rcases Nat.lt_succ_iff_lt_or_eq.mp h.earlier with hlt | rfl
    · have hlast : LastLook events i k hit :=
        ⟨hlt, h.looks, fun j hj hjk => h.none_since j hj (by omega)⟩
      exact .inr ⟨hlast, h.none_since k hlt (Nat.lt_succ_self k)⟩
    · exact .inl ⟨rfl, h.looks⟩
  · rintro (⟨rfl, hlooks⟩ | ⟨h, hnot⟩)
    · exact ⟨Nat.lt_succ_self i, hlooks, fun j _ _ => by omega⟩
    · refine ⟨Nat.lt_succ_of_lt h.earlier, h.looks, fun j hj hjk => ?_⟩
      rcases Nat.lt_succ_iff_lt_or_eq.mp hjk with hlt | rfl
      · exact h.none_since j hj hlt
      · exact hnot

/-- By induction on the events: one that looks brings the mode to what it sees, and any other leaves
what the mode is about, or closes a menu. -/
theorem target_before (events : List (Input α)) (k : Nat) :
    (before events k).mode = .idle ∨
      ∃ i hit, LastLook events i k hit ∧ (before events k).mode.target = hit := by
  induction k with
  | zero => exact .inl rfl
  | succ k ih =>
    cases hk : events[k]? with
    | none =>
      rw [before_succ_of_end hk]
      refine ih.imp_right ?_
      rintro ⟨i, hit, hlast, htarget⟩
      exact ⟨i, hit, lastLook_succ.mpr (.inr ⟨hlast, fun h => not_looksAt_of_end hk⟩), htarget⟩
    | some x =>
      obtain ⟨g, hit⟩ := x
      rw [before_succ hk]
      by_cases hlooks : (before events k).Looks g
      · refine (target_of_looks hlooks hit).imp_right fun htarget => ⟨k, hit, ?_, htarget⟩
        exact lastLook_succ.mpr (.inl ⟨rfl, (looksAt_iff hk).mpr ⟨rfl, hlooks⟩⟩)
      · have hnot : ∀ h, ¬ LooksAt events k h := fun h hl => hlooks ((looksAt_iff hk).mp hl).2
        rcases target_of_not_looks hlooks hit with hsame | ⟨-, -, hidle⟩
        · rcases ih with hidle | ⟨i, hit', hlast, htarget⟩
          · rw [← Mode.target_eq_none, hsame, hidle]
            exact .inl rfl
          · exact .inr ⟨i, hit', lastLook_succ.mpr (.inr ⟨hlast, hnot⟩), hsame.trans htarget⟩
        · exact .inl hidle

theorem target_of_lastLook (hlast : LastLook events i k hit) (hhit : hit.Hovers)
    (hopen : ∀ j, i < j → j < k → ¬ ClosesMenu events j) :
    (before events k).mode.target = hit := by
  induction k with
  | zero => exact absurd hlast.earlier (Nat.not_lt_zero i)
  | succ k ih =>
    rcases lastLook_succ.mp hlast with ⟨-, g, hk, hlooks⟩ | ⟨hearlier, hnot⟩
    · rw [before_succ hk]
      exact target_of_hovers hlooks hhit
    · have htarget := ih hearlier fun j hj hjk => hopen j hj (Nat.lt_succ_of_lt hjk)
      cases hk : events[k]? with
      | none => rwa [before_succ_of_end hk]
      | some x =>
        obtain ⟨g, hit'⟩ := x
        rw [before_succ hk]
        have hlooks : ¬ (before events k).Looks g :=
          fun hl => hnot hit' ((looksAt_iff hk).mpr ⟨rfl, hl⟩)
        rcases target_of_not_looks hlooks hit' with hsame | ⟨haction, ⟨on, hmenu⟩, -⟩
        · exact hsame.trans htarget
        · have hcloses : ClosesMenu events k := ⟨g, hit', on, hk, haction, hmenu⟩
          exact (hopen k hearlier.earlier (Nat.lt_succ_self k) hcloses).elim

/-- What the mode is about before event `k` of a run, and how it got there. -/
structure FollowsPointer (events : List (Input α)) (k : Nat) : Prop where
  target_eq : (before events k).mode = .idle ∨
    ∃ i hit, LastLook events i k hit ∧ (before events k).mode.target = hit
  /-- A node or an edge under the pointer is not let go of, unless a menu is closed over it. -/
  kept : ∀ i hit, LastLook events i k hit → hit.Hovers →
    (∀ j, i < j → j < k → ¬ ClosesMenu events j) → (before events k).mode.target = hit
  clicked_entered : ∀ b on, on ≠ .background → (before events k).mode ≠ .clicked b on →
    (before events (k + 1)).mode = .clicked b on →
      Released events k b ∧ ∃ j, Held events b on j k
  menu_closed : ClosesMenu events k → (before events (k + 1)).mode = .idle

theorem followsPointer (events : List (Input α)) (k : Nat) : FollowsPointer events k where
  target_eq := target_before events k
  kept _ _ hlast hhit hopen := target_of_lastLook hlast hhit hopen
  clicked_entered := by
    intro b on hon hbefore hafter
    cases hk : events[k]? with
    | none => exact (hbefore (before_succ_of_end hk ▸ hafter)).elim
    | some x =>
      rw [before_succ hk] at hafter
      rcases clicked_of_handle hon hafter with hsame | ⟨haction, hbutton, hpressed⟩
      · exact (hbefore hsame).elim
      · exact ⟨(released_iff hk).mpr ⟨haction, hbutton⟩, mode_before.mp hpressed⟩
  menu_closed := by
    rintro ⟨g, hit, on, hk, haction, hmenu⟩
    rw [before_succ hk]
    simp only [handle, haction, press_of_menu hmenu]
    rfl

end run

end Machine

end GraphCompare
