import GraphCompare.Proofs.Pointer.Run
import GraphCompare.Proofs.Window.Run
import GraphCompare.Proofs.Workspace.Uncovering

/-! Clicks on nodes. What is under the pointer comes down to an identity, and all that follows from
that is up to the workspace. So it does not matter in which view a node is clicked. -/
namespace GraphCompare
variable {c : Comparison} {o : Overlay} {w : Window} {u v : View} {i j id : NodeId} {n : NodeRef}
  {additive : Bool} {m : Machine Float} {g : Gesture Float} {α β : Type}

/-- The same kind of node at another index. -/
def NodeRef.withIndex : NodeRef → NodeId → NodeRef
  | .raw _, i => .raw i
  | .marker _, i => .marker i

namespace Overlay

/-- The index at which a view shows an identity. A side shows those of the nodes that it holds. -/
def indexIn? (o : Overlay) (v : View) (id : NodeId) : Option NodeId :=
  (o.merged.node? id).bind fun x =>
    match v.side? with
    | some s => x.holders.get s
    | none => some id

theorem Coherent.identityIn?_of_indexIn? (hc : o.Coherent) (h : o.indexIn? v id = some i) :
    o.identityIn? v i = some id := by
  obtain ⟨x, hx, hi⟩ := Option.bind_eq_some_iff.mp h
  cases hv : v.side? with
  | some s =>
    rw [hv] at hi
    have hidentity : (o.side s).identity? (.node i) = some id := hc.holds (e := .node id) hx hi
    simp [identityIn?, hv, hidentity]
  | none =>
    rw [hv] at hi
    cases hi
    exact identityIn?_of_lt hv (Graph.lt_of_node? hx)

end Overlay

namespace Pointers
variable {p : Pointers α} {m m' : Machine α}

theorem get?_set (h : p.get? v = some m) : (p.set v m').get? v = some m' := by
  cases v with
  | super => cases h
  | primary | secondary | combined => rfl

theorem set_set (p : Pointers α) (v : View) (m m' : Machine α) :
    (p.set v m).set v m' = p.set v m' := by
  cases v <;> rfl

end Pointers

namespace Window

/-- Sees and changes nothing of a window but its workspace. -/
def OnWorkspace (op : Window → Outcome Window α) : Prop :=
  ∀ ws, ∃ out : Outcome Workspace α, ∀ w : Window, w.workspace = ws → op w = w.withWorkspace out

section combinators

theorem onWorkspace_withWorkspace (act : Workspace → Outcome Workspace α) :
    OnWorkspace fun w => w.withWorkspace (act w.workspace) := by
  intro ws
  refine ⟨act ws, ?_⟩
  rintro w rfl
  rfl

theorem onWorkspace_tell (ns : List Notice) (a : α) : OnWorkspace fun w => ⟨w, ns, a⟩ :=
  onWorkspace_withWorkspace fun ws => ⟨ws, ns, a⟩

theorem OnWorkspace.andThen {op : Window → Outcome Window (Except Failure α)}
    {next : Window → α → Outcome Window (Except Failure β)} (h : OnWorkspace op)
    (hnext : ∀ a, OnWorkspace fun w => next w a) : OnWorkspace fun w => (op w).andThen next := by
  intro ws
  obtain ⟨out, hout⟩ := h ws
  cases hr : out.result with
  | error f =>
    refine ⟨⟨out.state, out.notices, .error f⟩, fun w hw => ?_⟩
    have hfailed : (w.withWorkspace out).result = .error f := hr
    dsimp only
    rw [hout w hw, Outcome.andThen_of_error hfailed]
    rfl
  | ok a =>
    obtain ⟨rest, hrest⟩ := hnext a out.state
    refine ⟨⟨rest.state, out.notices ++ rest.notices, rest.result⟩, fun w hw => ?_⟩
    have hdone : (w.withWorkspace out).result = .ok a := hr
    dsimp only at hrest ⊢
    rw [hout w hw, Outcome.andThen_of_ok hdone, hrest _ rfl]
    rfl

theorem OnWorkspace.ite {p : Workspace → Bool} {op op' : Window → Outcome Window α}
    (h : OnWorkspace op) (h' : OnWorkspace op') :
    OnWorkspace fun w => if p w.workspace then op w else op' w := by
  intro ws
  cases hp : p ws with
  | true =>
    obtain ⟨out, hout⟩ := h ws
    refine ⟨out, ?_⟩
    rintro w rfl
    simp only [hp, if_true, hout w rfl]
  | false =>
    obtain ⟨out, hout⟩ := h' ws
    refine ⟨out, ?_⟩
    rintro w rfl
    simp only [hp, Bool.false_eq_true, if_false, hout w rfl]

end combinators

theorem onWorkspace_attempt (step : Workspace → Except Failure (Outcome Workspace α)) :
    OnWorkspace fun w => w.attempt (step w.workspace) := by
  intro ws
  refine ⟨ws.settled (step ws), ?_⟩
  rintro w rfl
  dsimp only
  cases step w.workspace <;> rfl

theorem OnWorkspace.redrawn {op : Window → Outcome Window (Except Failure Unit)}
    (h : OnWorkspace op) (views : List View) (kind : Redraw) :
    OnWorkspace fun w => redrawn (op w) views kind :=
  h.andThen fun _ => onWorkspace_tell _ _

theorem onWorkspace_refocus : OnWorkspace refocus :=
  (onWorkspace_attempt Workspace.collapseToSelection).redrawn _ _

theorem onWorkspace_selectNode (v : View) (i : NodeId) (additive : Bool) :
    OnWorkspace fun w => w.selectNode v i additive := by
  intro ws
  cases hid : ws.overlay.identityIn? v i with
  | none =>
    refine ⟨.still ws (.ok ()), ?_⟩
    rintro w rfl
    simp only [selectNode, hid]
    rfl
  | some id =>
    have hselect := onWorkspace_withWorkspace fun ws =>
      (ws.select id additive).map fun _ => (.ok () : Except Failure Unit)
    have hreaction : ∀ _ : Unit, OnWorkspace fun w : Window =>
        if w.workspace.settings.browsing.enabled then w.refocus
        else ⟨w, Notice.redraws View.interactive .light, .ok ()⟩ := fun _ =>
      onWorkspace_refocus.ite (p := fun ws => ws.settings.browsing.enabled) (onWorkspace_tell _ _)
    have hreact := hselect.andThen hreaction
    obtain ⟨out, hout⟩ := hselect.ite (p := fun ws => !(ws.select id additive).result) hreact ws
    refine ⟨out, ?_⟩
    rintro w rfl
    rw [← hout w rfl]
    simp only [selectNode, hid]
    rfl

theorem onWorkspace_expandMarker (v : View) (i : NodeId) :
    OnWorkspace fun w => w.expandMarker v i := by
  intro ws
  cases hid : ws.overlay.identityIn? v i with
  | none =>
    refine ⟨.still ws (.ok ()), ?_⟩
    rintro w rfl
    simp only [expandMarker, hid]
    rfl
  | some id =>
    obtain ⟨out, hout⟩ := (onWorkspace_attempt fun ws => ws.reveal id).redrawn View.all .full ws
    refine ⟨out, ?_⟩
    rintro w rfl
    rw [← hout w rfl]
    simp only [expandMarker, hid]

theorem onWorkspace_execute_select (v : View) (n : NodeRef) (additive : Bool) :
    OnWorkspace fun w => w.execute v (.select n additive) := by
  cases n with
  | raw i => exact onWorkspace_selectNode v i additive
  | marker i => exact onWorkspace_expandMarker v i

/-- The window with another machine in a view. -/
def withMachine (w : Window) (v : View) (m : Machine Float) : Window :=
  { w with pointers := w.pointers.set v m }

@[simp] theorem workspace_withMachine (w : Window) (v : View) (m : Machine Float) :
    (w.withMachine v m).workspace = w.workspace := rfl

@[simp] theorem withMachine_withMachine (w : Window) (v : View) (m m' : Machine Float) :
    (w.withMachine v m).withMachine v m' = w.withMachine v m' := by
  simp [withMachine, Pointers.set_set]

/-- All that a command on a node takes from the view is the identity. -/
theorem execute_select_eq
    (h : w.workspace.overlay.identityIn? u i = w.workspace.overlay.identityIn? v j) :
    w.execute u (.select (n.withIndex i) additive) =
      w.execute v (.select (n.withIndex j) additive) := by
  cases n with
  | raw _ =>
    change w.selectNode u i additive = w.selectNode v j additive
    unfold selectNode
    rw [h]
  | marker _ =>
    change w.expandMarker u i = w.expandMarker v j
    unfold expandMarker
    rw [h]

theorem handlePointer_of_press (hm : w.pointers.get? v = some m) (hidle : m.mode = .idle)
    (haction : g.action = .pressed) (hbutton : g.button = .left)
    (hhit : (w.surfaces.get v).hitTest g.position = some (.node n)) :
    w.handlePointer v g =
      ⟨w.withMachine v ⟨.pressed .left (.node n), none, false⟩, [.redraw v .light],
        .ok (some ⟨.idle, .pressed .left (.node n), some .light, none⟩)⟩ := by
  have hpress : m.handle g (w.hitOf v g) =
      (⟨.idle, .pressed .left (.node n), some .light, none⟩,
        ⟨.pressed .left (.node n), none, false⟩) := by
    simp [Machine.handle, hitOf, haction, hhit, Machine.press, hidle, hbutton, Mode.isClicked,
      Mode.isPressed, Mode.press, Machine.become]
  simp only [handlePointer, hm, hpress]
  rfl

/-- The release of a node that is held selects it. -/
theorem handlePointer_of_release (hm : w.pointers.get? v = some m)
    (hheld : m.mode = .pressed .left (.node n)) (haction : g.action = .released)
    (hbutton : g.button = .left) :
    ∃ m' t, w.handlePointer v g =
      let step := (w.withMachine v m').execute v (.select n g.additive)
      ⟨step.state, .redraw v .light :: step.notices, step.result.map fun _ => some t⟩ := by
  have hmode : m.mode = .pressed g.button (.node n) := by rw [hbutton, hheld]
  have hrelease : m.handle g (w.hitOf v g) =
      m.become ⟨.clicked .left (.node n), none, m.panned⟩ (some (.select n g.additive)) := by
    simp only [Machine.handle, haction, Machine.release_of_held hmode, hbutton]
    rw [← hbutton, Machine.clickCommand_eq_select.mpr ⟨hbutton, rfl, rfl⟩]
  refine ⟨⟨.clicked .left (.node n), none, m.panned⟩,
    ⟨m.mode, .clicked .left (.node n), some .light, some (.select n g.additive)⟩, ?_⟩
  simp only [handlePointer, hm, hrelease]
  change (Outcome.andThen _ _).map _ = _
  rw [Outcome.andThen_of_ok rfl]
  rfl

/-- A left click on a node of a view: a press that finds the node, and a release. -/
structure ClicksOn (w : Window) (v : View) (n : NodeRef) (additive : Bool)
    (press release : Gesture Float) : Prop where
  idle : ∃ m, w.pointers.get? v = some m ∧ m.mode = .idle
  pressed : press.action = .pressed
  press_left : press.button = .left
  found : (w.surfaces.get v).hitTest press.position = some (.node n)
  released : release.action = .released
  release_left : release.button = .left
  additive_eq : release.additive = additive

/-- What a click in a view leads to, when it comes to `out` in the workspace. -/
structure ClickYields (w : Window) (v : View) (press release : Gesture Float)
    (out : Outcome Workspace (Except Failure Unit)) : Prop where
  /-- Of the press there are the machine of the view and its redraw. -/
  press_eq : ∃ m t, w.handlePointer v press = ⟨w.withMachine v m, [.redraw v .light], .ok (some t)⟩
  release_eq : ∃ m t, (w.handlePointer v press).state.handlePointer v release =
    ⟨{ w.withMachine v m with workspace := out.state }, .redraw v .light :: out.notices,
      out.result.map fun _ => some t⟩

/-- What a click on a node comes to depends on its identity alone, in whichever views it is shown.
A pair is shown by both sides and by the combined view, any other node by one side and by that. -/
theorem clickYields_alike (h : Overlay.ofComparison c = .ok w.workspace.overlay) (id : NodeId)
    (n : NodeRef) (additive : Bool) :
    ∃ out, ∀ v i press release, w.workspace.overlay.indexIn? v id = some i →
      w.ClicksOn v (n.withIndex i) additive press release → w.ClickYields v press release out := by
  have hc := Overlay.coherent_ofComparison h
  obtain ⟨out, hout⟩ :=
    onWorkspace_execute_select .combined (n.withIndex id) additive w.workspace
  refine ⟨out, fun v i press release hi hclick => ?_⟩
  obtain ⟨m, hm, hidle⟩ := hclick.idle
  have hpress := handlePointer_of_press hm hidle hclick.pressed hclick.press_left hclick.found
  refine ⟨⟨_, _, hpress⟩, ?_⟩
  rw [hpress]
  have hheld : (w.withMachine v ⟨.pressed .left (.node (n.withIndex i)), none, false⟩).pointers.get?
      v = some ⟨.pressed .left (.node (n.withIndex i)), none, false⟩ := Pointers.get?_set hm
  obtain ⟨m', t, hrelease⟩ :=
    handlePointer_of_release hheld rfl hclick.released hclick.release_left
  have hidentity := hc.identityIn?_of_indexIn? hi
  have hcombined := Overlay.identityIn?_of_lt (v := .combined) rfl (hc.lt_of_identityIn? hidentity)
  have hstep : (w.withMachine v m').execute v (.select (n.withIndex i) additive) =
      (w.withMachine v m').withWorkspace out := by
    have hview := hidentity.trans hcombined.symm
    rw [execute_select_eq (w := w.withMachine v m') hview]
    exact hout _ rfl
  refine ⟨m', t, ?_⟩
  rw [hrelease, withMachine_withMachine, hclick.additive_eq, hstep]
  rfl

theorem exists_overlay (hw : Reachable w) :
    ∃ c, Overlay.ofComparison c = .ok w.workspace.overlay := by
  obtain ⟨c, hsound⟩ := sound_reachable hw
  obtain ⟨o, ho, _, hcoupled⟩ := Workspace.exists_coupled hsound.reachable
  exact ⟨c, hcoupled.overlay_eq ▸ ho⟩

/-- Surfaces that find the nodes of the second pair of the sample, each at its index. -/
def pairSurfaces : Surfaces Float :=
  .ofFn fun v => { (sampleSurfaces 1 none).get v with
    hit := fun _ _ => some (.node (.raw (if v = .secondary then 0 else 1))) }

def leftPress : Gesture Float := ⟨.pressed, .left, .zero, false, false⟩

/-- A release with a key held, which selects more. -/
def leftRelease : Gesture Float := ⟨.released, .left, .zero, false, true⟩

/-- Two nodes of a pair, and what is drawn for both, are clicked with live browsing on. -/
theorem clickYields_sample : ∃ w out, Reachable w ∧ w.workspace.selection.ids = [2] ∧
    w.ClickYields .primary leftPress leftRelease out ∧
    w.ClickYields .secondary leftPress leftRelease out ∧
    w.ClickYields .combined leftPress leftRelease out ∧
    out.state.selection.ids = [2, 1] := by
  obtain ⟨w, hw, hrun⟩ := exists_sample_run { browsing := ⟨true, 0, 0⟩ }
    (sampleClick (.raw 2) ++ [.resurface (sampleSurfaces 1 none),
      .handlePointer .primary ⟨.moved, .left, .zero, false, false⟩, .resurface pairSurfaces])
    (p := fun w => w.workspace.selection.ids = [2] ∧
      (∀ v ∈ View.interactive,
        (w.pointers.get? v).map (·.mode) = some .idle ∧
        (w.workspace.overlay.indexIn? v 1).map (fun i => some (.node (.raw i))) =
          some ((w.surfaces.get v).hitTest .zero)) ∧
      ((w.handlePointer .primary leftPress).state.handlePointer .primary
        leftRelease).state.workspace.selection.ids = [2, 1])
    (by decide +kernel)
  obtain ⟨hbefore, hviews, hafter⟩ := of_decide_eq_true hrun
  obtain ⟨c, hc⟩ := exists_overlay hw
  obtain ⟨out, hout⟩ := clickYields_alike hc 1 (.raw 1) true
  have hyields : ∀ v ∈ View.interactive, w.ClickYields v leftPress leftRelease out := by
    intro v hv
    obtain ⟨hidle, hfound⟩ := hviews v hv
    obtain ⟨m, hm, hmode⟩ := Option.map_eq_some_iff.mp hidle
    obtain ⟨i, hi, hhit⟩ := Option.map_eq_some_iff.mp hfound
    exact hout v i _ _ hi ⟨⟨m, hm, hmode⟩, rfl, rfl, hhit.symm, rfl, rfl, rfl⟩
  have hprimary := hyields .primary (by decide)
  obtain ⟨m, t, hrelease⟩ := hprimary.release_eq
  rw [hrelease] at hafter
  exact ⟨w, out, hw, hbefore, hprimary, hyields .secondary (by decide),
    hyields .combined (by decide), hafter⟩

end Window

end GraphCompare
