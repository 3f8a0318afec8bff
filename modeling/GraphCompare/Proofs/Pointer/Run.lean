import GraphCompare.Pointer.Machine

/-! What one gesture does to the pointer machine. -/
namespace GraphCompare
variable {α : Type}

/-- A press is taken unless a button is held or a menu is open. -/
def Mode.TakesPress (m : Mode) : Prop := (∀ b on, m ≠ .pressed b on) ∧ ∀ on, m ≠ .clicked .right on

/-- What comes in at one time: a gesture and what lies under it. -/
abbrev Input (α : Type) := Gesture α × Hit

namespace Mode

variable {m : Mode} {b b' : Button} {on on' : Spot} {hit : Hit}

theorem takesPress_iff :
    m.TakesPress ↔ (m.isClicked && m.button? = some .right) = false ∧ m.isPressed = false := by
  cases m <;> simp [TakesPress, isClicked, button?, isPressed]

theorem press_eq_pressed : Mode.press b' hit = .pressed b on ↔ b' = b ∧ hit = some on := by
  cases hit <;> simp [Mode.press]

theorem enter_ne_pressed {m : Mode} (h : m ≠ .pressed b on) (hit : Hit) :
    Mode.enter m hit ≠ .pressed b on := by
  unfold Mode.enter
  split <;> simp_all

theorem stay_ne_pressed {background : Mode} (hm : m ≠ .pressed b on)
    (h : background ≠ .pressed b on) (hit : Hit) : m.stay background hit ≠ .pressed b on := by
  unfold Mode.stay
  split
  · exact hm
  · exact enter_ne_pressed h hit

/-- A move neither presses nor lets go. -/
theorem move_eq_pressed (m : Mode) (hit : Hit) :
    m.move hit = .pressed b on ↔ m = .pressed b on := by
  cases m with
  | pressed => exact Iff.rfl
  | clicked b' on' =>
    refine iff_of_false ?_ (by simp)
    cases on' with
    | background => exact enter_ne_pressed (by simp) hit
    | node n => exact stay_ne_pressed (by simp) (by simp) hit
    | edge e => exact stay_ne_pressed (by simp) (by simp) hit
    | bend e n => exact enter_ne_pressed (by simp) hit
  | idle => exact iff_of_false (enter_ne_pressed (by simp) hit) (by simp)
  | overNode => exact iff_of_false (stay_ne_pressed (by simp) (by simp) hit) (by simp)
  | overEdge => exact iff_of_false (stay_ne_pressed (by simp) (by simp) hit) (by simp)

end Mode

namespace Machine

variable {m : Machine α} {g : Gesture α} {hit : Hit} {b : Button} {on : Spot}

theorem press_of_takes (h : m.mode.TakesPress) (g : Gesture α) (hit : Hit) :
    (m.press g hit).2 = ⟨.press g.button hit,
      if Mode.press g.button hit = .pressed .left .background then some g.position else none,
      false⟩ := by
  obtain ⟨hmenu, hheld⟩ := Mode.takesPress_iff.mp h
  simp only [press, hmenu, hheld]
  rfl

/-- A press that is not taken at most closes a menu. -/
theorem press_of_not_takes (h : ¬ m.mode.TakesPress) (g : Gesture α) (hit : Hit) :
    (m.press g hit).2 = m ∨ m.mode.isPressed = false ∧ (m.press g hit).2 = initial := by
  rw [Mode.takesPress_iff] at h
  unfold press
  split
  · rename_i hmenu
    refine .inr ⟨?_, rfl⟩
    cases hm : m.mode <;> simp_all [Mode.isClicked, Mode.isPressed]
  · split
    · exact .inl rfl
    · simp_all

theorem command_press (m : Machine α) (g : Gesture α) (hit : Hit) :
    (m.press g hit).1.command = none := by
  unfold press
  split
  · rfl
  · split <;> rfl

theorem release_of_held (h : m.mode = .pressed g.button on) :
    m.release g = m.become ⟨.clicked g.button on, none, m.panned⟩
      (m.clickCommand g (.clicked g.button on)) := by
  simp [release, h, Mode.isPressed, Mode.button?, Mode.release]

/-- Releasing a button that is not held means nothing. -/
theorem release_of_not_held (h : ∀ on, m.mode ≠ .pressed g.button on) :
    m.release g = m.ignore := by
  unfold release
  rw [if_pos]
  cases hm : m.mode with
  | pressed b on =>
    have hb : b ≠ g.button := fun he => h on (he ▸ hm)
    simp [Mode.isPressed, Mode.button?, hb]
  | _ => simp [Mode.isPressed]

theorem clickCommand_eq_select {n : NodeRef} {additive : Bool} :
    m.clickCommand g (.clicked g.button on) = some (.select n additive) ↔
      g.button = .left ∧ on = .node n ∧ g.additive = additive := by
  cases hb : g.button with
  | right => simp [clickCommand, hb]
  | left => cases on <;> simp [clickCommand, hb]

theorem clickCommand_eq_clear :
    m.clickCommand g (.clicked g.button on) = some .clear ↔
      g.button = .left ∧ on = .background ∧ m.panned = false := by
  cases hb : g.button with
  | right => simp [clickCommand, hb]
  | left => cases on <;> simp [clickCommand, hb]

theorem clickCommand_eq_menu {h : Hit} :
    m.clickCommand g (.clicked g.button on) = some (.menu h) ↔
      g.button = .right ∧ some on = h := by
  cases hb : g.button with
  | right => simp [clickCommand, hb, Mode.target]
  | left => cases on <;> simp [clickCommand, hb]

theorem clickCommand_ne_pan {d : Vec α} :
    m.clickCommand g (.clicked g.button on) ≠ some (.pan d) := by
  cases hb : g.button with
  | right => simp [clickCommand, hb]
  | left => cases on <;> simp [clickCommand, hb]

/-- Only a drag of the background by the left button has an anchor. -/
def Anchored (m : Machine α) : Prop := m.anchor.isSome → m.mode = .pressed .left .background

theorem anchored_initial : (initial : Machine α).Anchored := by
  simp [Anchored, initial]

variable [Scalar α]

theorem drag_of_free (h : m.mode.isPressed = false) (g : Gesture α) : m.drag g = m.ignore := by
  simp [drag, h]

theorem mode_drag (m : Machine α) (g : Gesture α) : (m.drag g).2.mode = m.mode := by
  unfold drag
  split
  · rfl
  · split
    · rfl
    · simp only
      split <;> rfl

/-- A button is held after a gesture if the gesture has pressed it, or if it was held before and
the gesture has not released it. -/
theorem mode_handle (m : Machine α) (g : Gesture α) (hit : Hit) :
    (m.handle g hit).2.mode = .pressed b on ↔
      (m.mode = .pressed b on ∧ ¬ (g.action = .released ∧ g.button = b)) ∨
      (g.action = .pressed ∧ g.button = b ∧ hit = some on ∧ m.mode.TakesPress) := by
  cases ha : g.action with
  | pressed =>
    simp only [handle, ha]
    by_cases htakes : m.mode.TakesPress
    · have hfree : m.mode ≠ .pressed b on := htakes.1 b on
      simp [press_of_takes htakes, Mode.press_eq_pressed, htakes, hfree]
    · rcases press_of_not_takes htakes g hit with hstay | ⟨hfree, hclosed⟩
      · simp [hstay, htakes]
      · have hm : m.mode ≠ .pressed b on := by
          intro hm
          simp [hm, Mode.isPressed] at hfree
        simp [hclosed, htakes, hm, initial]
  | released =>
    simp only [handle, ha]
    by_cases hheld : ∃ on, m.mode = .pressed g.button on
    · obtain ⟨on', hm⟩ := hheld
      simp only [release_of_held hm, become, hm]
      simp
      exact fun hb _ => hb
    · have hm : ∀ on, m.mode ≠ .pressed g.button on := fun on h => hheld ⟨on, h⟩
      simp only [release_of_not_held hm, ignore]
      simp
      rintro h rfl
      exact hm on h
  | dragged => simp [handle, ha, mode_drag]
  | moved => simp [handle, ha, move, Mode.move_eq_pressed]

/-- A command comes from letting go of what was pressed, or from a drag of the background. -/
theorem command_handle (m : Machine α) (g : Gesture α) (hit : Hit) {c : Command α} :
    (m.handle g hit).1.command = some c ↔
      (g.action = .released ∧
        ∃ on, m.mode = .pressed g.button on ∧ m.clickCommand g (.clicked g.button on) = some c) ∨
      (g.action = .dragged ∧ m.mode.isPressed = true ∧
        ∃ p, m.anchor = some p ∧ (g.position.minus p).isZero = false ∧
          c = .pan (g.position.minus p)) := by
  cases ha : g.action with
  | pressed => simp [handle, ha, command_press]
  | released =>
    simp only [handle, ha]
    by_cases hheld : ∃ on, m.mode = .pressed g.button on
    · obtain ⟨on, hm⟩ := hheld
      simp [release_of_held hm, become, hm]
    · have hm : ∀ on, m.mode ≠ .pressed g.button on := fun on h => hheld ⟨on, h⟩
      simp [release_of_not_held hm, ignore, hm]
  | dragged =>
    simp only [handle, ha]
    cases hheld : m.mode.isPressed with
    | false => simp [drag_of_free hheld, ignore]
    | true =>
      cases hp : m.anchor with
      | none => simp [drag, hheld, hp, become]
      | some p =>
        cases hz : (g.position.minus p).isZero with
        | true => simp [drag, hheld, hp, hz, become]
        | false =>
          simp [drag, hheld, hp, hz, become]
          exact eq_comm
  | moved => simp [handle, ha, move]

theorem anchored_handle (h : m.Anchored) (g : Gesture α) (hit : Hit) :
    (m.handle g hit).2.Anchored := by
  unfold handle
  split
  · by_cases htakes : m.mode.TakesPress
    · rw [press_of_takes htakes]
      simp only [Anchored]
      split <;> simp_all
    · rcases press_of_not_takes htakes g hit with hstay | ⟨-, hclosed⟩
      · rwa [hstay]
      · rw [hclosed]
        exact anchored_initial
  · by_cases hheld : ∃ on, m.mode = .pressed g.button on
    · obtain ⟨on, hm⟩ := hheld
      simp [release_of_held hm, become, Anchored]
    · rw [release_of_not_held fun on hm => hheld ⟨on, hm⟩]
      exact h
  · intro hsome
    rw [mode_drag]
    refine h ?_
    cases hp : m.anchor with
    | some p => rfl
    | none =>
      unfold drag at hsome
      split at hsome <;> simp [ignore, become, hp] at hsome
  · intro hsome
    exact (Mode.move_eq_pressed m.mode hit).mpr (h hsome)

/-- Until the button is released, drags take the anchor along, and pans are remembered. -/
theorem handle_of_anchor {p : Point α} (h : m.Anchored) (hp : m.anchor = some p)
    (hkeep : ¬ (g.action = .released ∧ g.button = .left)) (hit : Hit) :
    (m.handle g hit).2.anchor = some (if g.action = .dragged then g.position else p) ∧
      ((m.handle g hit).2.panned = true ↔
        m.panned = true ∨ ∃ d, (m.handle g hit).1.command = some (.pan d)) := by
  have hm : m.mode = .pressed .left .background := h (by simp [hp])
  have hheld : m.mode.isPressed = true := by simp [hm, Mode.isPressed]
  cases ha : g.action with
  | pressed =>
    have htakes : ¬ m.mode.TakesPress := fun htakes => htakes.1 _ _ hm
    rcases press_of_not_takes htakes g hit with hstay | ⟨hfree, -⟩
    · simp [handle, ha, hstay, hp, command_press]
    · simp [hheld] at hfree
  | released =>
    have hother : ∀ on, m.mode ≠ .pressed g.button on := by
      intro on heq
      refine hkeep ⟨ha, ?_⟩
      rw [hm] at heq
      simp_all
    simp [handle, ha, release_of_not_held hother, ignore, hp]
  | dragged =>
    cases hz : (g.position.minus p).isZero <;> simp [handle, ha, drag, hheld, hp, hz, become]
  | moved => simp [handle, ha, move, hp]

end Machine

end GraphCompare
