import GraphCompare.Event.Basic

/-! Notices by whom they concern: subscribers, the one who answers questions, the layout engine, and
the surfaces. -/
namespace GraphCompare.Notice

def event? : Notice → Option Event
  | .event e => some e
  | _ => none

def question? : Notice → Option String
  | .question text => some text
  | _ => none

def layout? : Notice → Option Bool
  | .layout hidden => some hidden
  | _ => none

def redraw? : Notice → Option (View × Redraw)
  | .redraw view kind => some (view, kind)
  | _ => none

variable (ns : List Notice)

/-- The events for subscribers, in order. -/
def delivered : List Event := ns.filterMap event?

/-- The questions that are asked, in order. -/
def asked : List String := ns.filterMap question?

/-- The calls of the layout engine, each with what it hears about hidden nodes. -/
def laidOut : List Bool := ns.filterMap layout?

def redrawn : List (View × Redraw) := ns.filterMap redraw?

@[simp] theorem delivered_events (es : List Event) : delivered (events es) = es := by
  simp [delivered, events, List.filterMap_map, Function.comp_def, event?]

@[simp] theorem delivered_redraws (views : List View) (kind : Redraw) :
    delivered (redraws views kind) = [] := by
  simp [delivered, redraws, event?]

@[simp] theorem delivered_append (ns ms : List Notice) :
    delivered (ns ++ ms) = delivered ns ++ delivered ms :=
  List.filterMap_append

@[simp] theorem asked_events (es : List Event) : asked (events es) = [] := by
  simp [asked, events, question?]

@[simp] theorem asked_redraws (views : List View) (kind : Redraw) :
    asked (redraws views kind) = [] := by
  simp [asked, redraws, question?]

@[simp] theorem asked_append (ns ms : List Notice) : asked (ns ++ ms) = asked ns ++ asked ms :=
  List.filterMap_append

@[simp] theorem redrawn_events (es : List Event) : redrawn (events es) = [] := by
  simp [redrawn, events, redraw?]

@[simp] theorem redrawn_redraws (views : List View) (kind : Redraw) :
    redrawn (redraws views kind) = views.map (·, kind) := by
  simp [redrawn, redraws, List.filterMap_map, Function.comp_def, redraw?]

@[simp] theorem redrawn_append (ns ms : List Notice) :
    redrawn (ns ++ ms) = redrawn ns ++ redrawn ms :=
  List.filterMap_append

/-- Questions concern only the one who answers them. -/
theorem filterMap_questions {α : Type} {f : Notice → Option α}
    (h : ∀ text, f (.question text) = none) (questions : List String) :
    (questions.map question ++ ns).filterMap f = ns.filterMap f := by
  simp [List.filterMap_append, List.filterMap_map, h]

theorem mem_redrawn_redraws {views : List View} {kind kind' : Redraw} {v : View} :
    (v, kind') ∈ redrawn (redraws views kind) ↔ v ∈ views ∧ kind' = kind := by
  rw [redrawn_redraws, List.mem_map]
  constructor
  · rintro ⟨u, hu, heq⟩
    obtain ⟨rfl, rfl⟩ := Prod.mk.inj heq
    exact ⟨hu, rfl⟩
  · rintro ⟨hv, rfl⟩
    exact ⟨v, hv, rfl⟩

section drawing
variable {ns ms : List Notice} {v : View}

/-- A view is drawn again, one way or the other. -/
def Draws (ns : List Notice) (v : View) : Prop := ∃ kind, (v, kind) ∈ redrawn ns

/-- Every view is drawn again with all that is derived from its content. -/
def DrawsAll (ns : List Notice) : Prop := ∀ v, (v, .full) ∈ redrawn ns

theorem DrawsAll.draws (h : DrawsAll ns) (v : View) : Draws ns v := ⟨.full, h v⟩

theorem draws_redraws {views : List View} (hv : v ∈ views) (kind : Redraw) :
    Draws (redraws views kind) v :=
  ⟨kind, mem_redrawn_redraws.mpr ⟨hv, rfl⟩⟩

theorem draws_redraw (v : View) (kind : Redraw) : Draws [.redraw v kind] v :=
  draws_redraws (List.mem_singleton_self v) kind

theorem drawsAll_redraws : DrawsAll (redraws View.all .full) := fun v =>
  mem_redrawn_redraws.mpr ⟨View.mem_all v, rfl⟩

theorem Draws.append_left (h : Draws ns v) (ms : List Notice) : Draws (ns ++ ms) v := by
  obtain ⟨kind, hmem⟩ := h
  exact ⟨kind, redrawn_append ns ms ▸ List.mem_append_left _ hmem⟩

theorem Draws.append_right (h : Draws ms v) (ns : List Notice) : Draws (ns ++ ms) v := by
  obtain ⟨kind, hmem⟩ := h
  exact ⟨kind, redrawn_append ns ms ▸ List.mem_append_right _ hmem⟩

theorem DrawsAll.append_left (h : DrawsAll ns) (ms : List Notice) : DrawsAll (ns ++ ms) :=
  fun v => redrawn_append ns ms ▸ List.mem_append_left _ (h v)

theorem DrawsAll.append_right (h : DrawsAll ms) (ns : List Notice) : DrawsAll (ns ++ ms) :=
  fun v => redrawn_append ns ms ▸ List.mem_append_right _ (h v)

end drawing

end GraphCompare.Notice
