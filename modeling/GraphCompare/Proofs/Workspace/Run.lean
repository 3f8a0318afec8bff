import GraphCompare.Workspace.Unhide
import GraphCompare.Proofs.Layer.Showing

/-! Runs: any calls, one after another, on the layers of an overlay or on a whole workspace. What
the sides derive to is what the combined and the super view show, after every call. -/
namespace GraphCompare

namespace Layers

/-- A call that changes flags. -/
inductive Call
  | setVisible (s : Side) (e : Element) (visible : Bool)
  | setNodeVisibleAt (s : Side) (a : Address) (visible : Bool)
  | setEdgeVisibleAt (s : Side) (source target : Address) (visible : Bool)
  | adoptSuper

/-- The layers that a change gives, or those before it if it failed. -/
def settled (ls : Layers) : Except Failure (Bool × Layers) → Layers
  | .ok change => change.2
  | .error _ => ls

/-- The layers after a call. -/
def after (o : Overlay) (ls : Layers) : Call → Layers
  | .setVisible s e visible => ls.settled (ls.setVisible o s e visible)
  | .setNodeVisibleAt s a visible => ls.settled (ls.setNodeVisibleAt o s a visible)
  | .setEdgeVisibleAt s source target visible =>
    ls.settled (ls.setEdgeVisibleAt o s source target visible)
  | .adoptSuper => ls.adoptSuper o

def run (o : Overlay) (ls : Layers) (calls : List Call) : Layers := calls.foldl (after o) ls

end Layers

namespace Workspace

/-- A public call. -/
inductive Call
  | setVisible (s : Side) (e : Element) (visible : Bool)
  | setNodeVisibleAt (s : Side) (a : Address) (visible : Bool)
  | select (id : NodeId) (additive : Bool)
  | toggleSelected (id : NodeId)
  | clearSelection
  | updateSettings (overrides : Json)
  | setBrowsing (enabled : Bool)
  | unhide (host : Host)
  | collapse (focus : List NodeId)
  | collapseToSelection
  | reveal (id : NodeId)

/-- The outcome of a call that may fail, and then leaves everything as it was. -/
def settled {α : Type} (w : Workspace) :
    Except Failure (Outcome Workspace α) → Outcome Workspace (Except Failure Unit)
  | .ok out => out.map fun _ => .ok ()
  | .error f => .still w (.error f)

def perform (w : Workspace) : Call → Outcome Workspace (Except Failure Unit)
  | .setVisible s e visible => w.settled (w.setVisible s e visible)
  | .setNodeVisibleAt s a visible => w.settled (w.setNodeVisibleAt s a visible)
  | .select id additive => (w.select id additive).map fun _ => .ok ()
  | .toggleSelected id => (w.toggleSelected id).map fun _ => .ok ()
  | .clearSelection => w.clearSelection.map fun _ => .ok ()
  | .updateSettings overrides => w.settled (w.updateSettings overrides)
  | .setBrowsing enabled => (w.setBrowsing enabled).map fun _ => .ok ()
  | .unhide host => (w.unhide host).map fun r => r.map fun _ => ()
  | .collapse focus => w.settled (w.collapse focus)
  | .collapseToSelection => w.settled w.collapseToSelection
  | .reveal id => w.settled (w.reveal id)

/-- The workspace after a call. -/
def after (w : Workspace) (call : Call) : Workspace := (w.perform call).state

def run (w : Workspace) (calls : List Call) : Workspace := calls.foldl after w

/-- A workspace that was opened on a comparison and then went through any calls. -/
def Reachable (c : Comparison) (w : Workspace) : Prop :=
  ∃ o settings calls, Overlay.ofComparison c = .ok o ∧ w = (new o settings).run calls

end Workspace

variable {c : Comparison} {o : Overlay} {ls ls' : Layers} {s : Side} {e : Element}
  {a source target : Address} {b visible : Bool} {w : Workspace} {settings : Settings}
  {keep : Array Bool} {focus : List NodeId} {id : NodeId}

namespace Layers

theorem setVisible_of_setNodeVisibleAt
    (h : setNodeVisibleAt o ls s a visible = .ok (b, ls')) :
    ∃ v, (o.side s).nodeId a = .ok v ∧ setVisible o ls s (.node v) visible = .ok (b, ls') := by
  unfold setNodeVisibleAt at h
  exact exists_of_bind_ok h

theorem setVisible_of_setEdgeVisibleAt
    (h : setEdgeVisibleAt o ls s source target visible = .ok (b, ls')) :
    ∃ e, (o.side s).edgeId source target = .ok e ∧
      setVisible o ls s (.edge e) visible = .ok (b, ls') := by
  unfold setEdgeVisibleAt at h
  exact exists_of_bind_ok h

private theorem derived_settled {r : Except Failure (Bool × Layers)} (hd : Derived o ls)
    (h : ∀ b ls', r = .ok (b, ls') → Derived o ls') : Derived o (ls.settled r) := by
  cases r with
  | error f => exact hd
  | ok change => exact h change.1 change.2 rfl

theorem derived_after (hc : o.Coherent) (hd : Derived o ls) (call : Call) :
    Derived o (ls.after o call) := by
  cases call with
  | setVisible s e visible =>
    apply derived_settled hd
    intro b ls' hok
    exact derived_setVisible hc hd hok
  | setNodeVisibleAt s a visible =>
    apply derived_settled hd
    intro b ls' hok
    obtain ⟨v, _, hv⟩ := setVisible_of_setNodeVisibleAt hok
    exact derived_setVisible hc hd hv
  | setEdgeVisibleAt s source target visible =>
    apply derived_settled hd
    intro b ls' hok
    obtain ⟨e, _, he⟩ := setVisible_of_setEdgeVisibleAt hok
    exact derived_setVisible hc hd he
  | adoptSuper => exact derived_adoptSuper hc hd.sized

theorem derived_run (hc : o.Coherent) (hd : Derived o ls) (calls : List Call) :
    Derived o (ls.run o calls) := by
  induction calls generalizing ls with
  | nil => exact hd
  | cons call calls ih => exact ih (derived_after hc hd call)

theorem derived_reveal (hc : o.Coherent) (hd : Derived o ls) : Derived o (ls.reveal o) :=
  derived_adoptSuper hc (sized_foldl_stage _ hd.sized)

end Layers

namespace Workspace

/-- A workspace that a comparison is opened in is reachable. -/
theorem reachable_ofComparison (h : ofComparison c settings = .ok w) : Reachable c w := by
  unfold ofComparison at h
  obtain ⟨_, _, h⟩ := exists_of_bind_ok h
  obtain ⟨o, ho, h⟩ := exists_of_bind_ok h
  cases h
  exact ⟨o, settings, [], ho, rfl⟩

theorem reachable_run (h : Reachable c w) (calls : List Call) : Reachable c (w.run calls) := by
  obtain ⟨o, settings, before, ho, rfl⟩ := h
  refine ⟨o, settings, before ++ calls, ho, ?_⟩
  simp only [run, List.foldl_append]

/-- All that a call can do to the layers and the markers. -/
inductive Change (w : Workspace) : Workspace → Prop
  | kept (selection : Selection) (settings : Settings) :
    Change w { w with selection := selection, settings := settings }
  /-- One flag is set, and markers follow if there are any and the flag changed. -/
  | flag {s : Side} {e : Element} {visible changed : Bool} {ls : Layers}
    (h : w.layers.setVisible w.overlay s e visible = .ok (changed, ls)) :
    Change w { w with
      layers := ls
      markers := if changed && !w.markers.isNone then ls.markers w.overlay else w.markers }
  | shown {keep : Array Bool} {ls : Layers} (h : w.layers.showing w.overlay keep = .ok ls) :
    Change w { w with layers := ls, markers := ls.markers w.overlay }
  | revealed : Change w { w with layers := w.layers.reveal w.overlay, markers := .none }

/-- All of a call that sets one flag. -/
theorem setVisible_ok {out : Outcome Workspace Bool} (h : w.setVisible s e visible = .ok out) :
    ∃ ls, w.layers.setVisible w.overlay s e visible = .ok (out.result, ls) ∧
      out.state = { w with
        layers := ls
        markers := if out.result && !w.markers.isNone then ls.markers w.overlay else w.markers } ∧
      out.notices = if out.result then
          Notice.events (Event.visibility ++ if w.markers.isNone then [] else [.markersChanged])
        else [] := by
  unfold setVisible at h
  obtain ⟨⟨changed, ls⟩, hok, hout⟩ := exists_of_bind_ok h
  cases changed with
  | false =>
    cases hout
    exact ⟨ls, hok, rfl, rfl⟩
  | true =>
    cases hm : w.markers.isNone with
    | true =>
      simp only [hm, Bool.not_true, Bool.false_eq_true, if_false, if_true] at hout
      cases hout
      exact ⟨ls, hok, by simp, by simp⟩
    | false =>
      simp only [hm, Bool.not_true, Bool.false_eq_true, if_false] at hout
      cases hout
      exact ⟨ls, hok, by simp, by simp⟩

theorem change_setVisible {out : Outcome Workspace Bool}
    (h : w.setVisible s e visible = .ok out) : Change w out.state := by
  obtain ⟨ls, hok, hstate, _⟩ := setVisible_ok h
  rw [hstate]
  exact .flag hok

theorem setVisible_of_setNodeVisibleAt {out : Outcome Workspace Bool}
    (h : w.setNodeVisibleAt s a visible = .ok out) :
    ∃ v, (w.overlay.side s).nodeId a = .ok v ∧ w.setVisible s (.node v) visible = .ok out := by
  unfold setNodeVisibleAt at h
  exact exists_of_bind_ok h

theorem updateSettings_of_ok {overrides : Json} {changed : List SettingKey} {t : Settings}
    (h : w.settings.override overrides = .ok (changed, t)) :
    w.updateSettings overrides = .ok
      ⟨{ w with settings := t }, Notice.events (changed.map .settingsChanged), changed⟩ := by
  unfold updateSettings
  rw [h]
  rfl

theorem updateSettings_of_error {overrides : Json} {f : Failure}
    (h : w.settings.override overrides = .error f) : w.updateSettings overrides = .error f := by
  unfold updateSettings
  rw [h]
  rfl

theorem updateSettings_ok {overrides : Json} {out : Outcome Workspace (List SettingKey)}
    (h : w.updateSettings overrides = .ok out) :
    ∃ change, w.settings.override overrides = .ok change ∧
      out.state = { w with settings := change.2 } ∧
      out.notices = Notice.events (change.1.map .settingsChanged) := by
  cases ho : w.settings.override overrides with
  | error f =>
    rw [updateSettings_of_error ho] at h
    cases h
  | ok change =>
    rw [updateSettings_of_ok ho] at h
    cases h
    exact ⟨change, rfl, rfl, rfl⟩

theorem state_setBrowsing (w : Workspace) (enabled : Bool) :
    (w.setBrowsing enabled).state = { w with settings.browsing.enabled := enabled } := by
  unfold setBrowsing
  split
  · rename_i h
    rw [← h]
    rfl
  · rfl

theorem state_revealAll (w : Workspace) (host : Host) (nodes edges : Nat) :
    (w.revealAll host nodes edges).state =
      { w with layers := w.layers.reveal w.overlay, markers := .none } := by
  unfold revealAll
  dsimp only
  split
  · rfl
  · split <;> rfl

/-- Ending to browse changes nothing, or turns browsing on, or makes everything visible. -/
theorem change_unhide (w : Workspace) (host : Host) : Change w (w.unhide host).state := by
  unfold unhide
  split
  · exact .kept w.selection w.settings
  · dsimp only
    split
    · split
      · exact state_revealAll w host _ _ ▸ .revealed
      · rw [state_setBrowsing]
        exact .kept w.selection _
    · exact state_revealAll w host _ _ ▸ .revealed

/-- What is shown, and the markers and counts that belong to that. -/
theorem showOnly_of_showing (h : w.layers.showing w.overlay keep = .ok ls) :
    w.showOnly keep = .ok
      ⟨{ w with layers := ls, markers := ls.markers w.overlay },
        Notice.events (Event.visibility ++ [.markersChanged]),
        ({ w with layers := ls, markers := ls.markers w.overlay } : Workspace).counts⟩ := by
  unfold showOnly
  rw [h]
  rfl

theorem showOnly_ok {out : Outcome Workspace Counts} (h : w.showOnly keep = .ok out) :
    ∃ ls, w.layers.showing w.overlay keep = .ok ls ∧
      out.state = { w with layers := ls, markers := ls.markers w.overlay } ∧
      out.notices = Notice.events (Event.visibility ++ [.markersChanged]) := by
  unfold showOnly at h
  obtain ⟨ls, hok, hout⟩ := exists_of_bind_ok h
  cases hout
  exact ⟨ls, hok, rfl, rfl⟩

theorem change_showOnly {out : Outcome Workspace Counts} (h : w.showOnly keep = .ok out) :
    Change w out.state := by
  obtain ⟨ls, hok, hstate, _⟩ := showOnly_ok h
  rw [hstate]
  exact .shown hok

/-- Without a focus nothing is collapsed. -/
theorem collapse_cases {out : Outcome Workspace Counts} (h : w.collapse focus = .ok out) :
    out = .still w w.counts ∨ w.showOnly (w.nearby focus) = .ok out := by
  unfold collapse at h
  split at h
  · exact .inl (Except.ok.inj h).symm
  · split at h
    · cases h
    · exact .inr h

theorem change_collapse {out : Outcome Workspace Counts} (h : w.collapse focus = .ok out) :
    Change w out.state := by
  rcases collapse_cases h with rfl | hshow
  · exact .kept w.selection w.settings
  · exact change_showOnly hshow

theorem showOnly_of_reveal {out : Outcome Workspace Counts} (h : w.reveal id = .ok out) :
    w.showOnly (w.expanded id) = .ok out := by
  unfold reveal at h
  split at h
  · exact h
  · cases h

theorem state_settled {α : Type} {r : Except Failure (Outcome Workspace α)}
    {out : Outcome Workspace α} (h : r = .ok out) : (w.settled r).state = out.state := by
  rw [h]
  rfl

private theorem change_settled {α : Type} {r : Except Failure (Outcome Workspace α)}
    (h : ∀ out, r = .ok out → Change w out.state) : Change w (w.settled r).state := by
  cases r with
  | error f => exact .kept w.selection w.settings
  | ok out => exact h out rfl

theorem change_after (w : Workspace) (call : Call) : Change w (w.after call) := by
  cases call with
  | setVisible s e visible => exact change_settled fun _ hok => change_setVisible hok
  | setNodeVisibleAt s a visible =>
    apply change_settled
    intro out hok
    obtain ⟨v, _, hv⟩ := setVisible_of_setNodeVisibleAt hok
    exact change_setVisible hv
  | select id additive => exact .kept _ w.settings
  | toggleSelected id => exact .kept _ w.settings
  | clearSelection => exact .kept _ w.settings
  | updateSettings overrides =>
    apply change_settled
    intro out hok
    obtain ⟨change, _, hstate, _⟩ := updateSettings_ok hok
    exact hstate ▸ .kept w.selection change.2
  | setBrowsing enabled =>
    change Change w (w.setBrowsing enabled).state
    exact state_setBrowsing w enabled ▸ .kept w.selection _
  | unhide host => exact change_unhide w host
  | collapse focus => exact change_settled fun _ hok => change_collapse hok
  | collapseToSelection => exact change_settled fun _ hok => change_collapse hok
  | reveal id => exact change_settled fun _ hok => change_showOnly (showOnly_of_reveal hok)

/-- The views of a workspace stay over its overlay and in agreement. -/
structure Coupled (o : Overlay) (w : Workspace) : Prop where
  overlay_eq : w.overlay = o
  derived : Layers.Derived o w.layers

theorem coupled_new (hc : o.Coherent) (settings : Settings) : Coupled o (new o settings) :=
  ⟨rfl, Layers.derived_allVisible hc⟩

theorem coupled_change {w' : Workspace} (hc : o.Coherent) (h : Coupled o w) (hw : Change w w') :
    Coupled o w' := by
  obtain ⟨rfl, hd⟩ := h
  cases hw with
  | kept selection settings => exact ⟨rfl, hd⟩
  | flag hok => exact ⟨rfl, Layers.derived_setVisible hc hd hok⟩
  | shown hok =>
    obtain ⟨ls, hls, hshown⟩ := Layers.showing_ok hc hd _
    cases Except.ok.inj (hls.symm.trans hok)
    exact ⟨rfl, hshown.derived⟩
  | revealed => exact ⟨rfl, Layers.derived_reveal hc hd⟩

/-- Showing the identities to keep cannot fail, and the markers come to belong to them. -/
theorem exists_showOnly (hc : o.Coherent) (h : Coupled o w) (keep : Array Bool) :
    ∃ out, w.showOnly keep = .ok out ∧
      Layers.Shown o keep o.identities out.state.layers ∧
      out.state = { w with
        layers := out.state.layers
        markers := out.state.layers.markers o } ∧
      out.result = out.state.counts := by
  obtain ⟨rfl, hd⟩ := h
  obtain ⟨ls, hls, hshown⟩ := Layers.showing_ok hc hd keep
  exact ⟨_, showOnly_of_showing hls, hshown, rfl, rfl⟩

theorem coupled_after (hc : o.Coherent) (h : Coupled o w) (call : Call) :
    Coupled o (w.after call) :=
  coupled_change hc h (change_after w call)

theorem coupled_run (hc : o.Coherent) (h : Coupled o w) (calls : List Call) :
    Coupled o (w.run calls) := by
  induction calls generalizing w with
  | nil => exact h
  | cons call calls ih => exact ih (coupled_after hc h call)

theorem exists_coupled (hw : Reachable c w) :
    ∃ o, Overlay.ofComparison c = .ok o ∧ o.Coherent ∧ Coupled o w := by
  obtain ⟨o, settings, calls, ho, rfl⟩ := hw
  have hc := Overlay.coherent_ofComparison ho
  exact ⟨o, ho, hc, coupled_run hc (coupled_new hc settings) calls⟩

/-- A run from the sample, with what it computes checked by computing it. -/
theorem exists_sample_run (settings : Settings) (calls : List Call) {p : Workspace → Bool}
    (h : (Overlay.ofComparison .sample).toOption.any (fun o => p ((new o settings).run calls)) =
      true) : ∃ w, Reachable .sample w ∧ p w = true := by
  obtain ⟨o, ho, hp⟩ := exists_ok_of_any h
  exact ⟨_, ⟨o, settings, calls, ho, rfl⟩, hp⟩

end Workspace

namespace Layers

/-- What the flags of an overlay have to do with each other, in full. -/
structure Agrees (o : Overlay) (ls : Layers) : Prop where
  node_count : ∀ v, (ls.get v).nodes.size = o.nodeCount v
  edge_count : ∀ v, (ls.get v).edges.size = o.edgeCount v
  combined_eq : ∀ e x, o.merged? e = some x → ls.combined.get e = ls.derived x e
  super_eq : ∀ e x, o.merged? e = some x → ls.super.get e = ls.combined.get e
  /-- One visible side of a pair is enough. -/
  pair : ∀ e x i j, o.merged? e = some x → x.holders = ⟨some i, some j⟩ →
    ls.combined.get e = (ls.primary.get (e.withIndex i) || ls.secondary.get (e.withIndex j))
  single : ∀ e x s i, o.merged? e = some x → x.holders.get s = some i →
    x.holders.get s.other = none → ls.combined.get e = (ls.get s.view).get (e.withIndex i)
  no_violation : ls.violations o = []

theorem agrees_of_derived (h : Derived o ls) : Agrees o ls where
  node_count v := h.sized v .node
  edge_count v := h.sized v .edge
  combined_eq _ _ hx := h.flag_eq (v := .combined) rfl hx
  super_eq _ _ hx := (h.flag_eq (v := .super) rfl hx).trans (h.flag_eq (v := .combined) rfl hx).symm
  pair := by
    intro e x i j hx hh
    refine (h.flag_eq (v := .combined) rfl hx).trans ?_
    simp [derived, heldFlag, Merged.presence, Presence.derive, PerSide.get, PerView.get, Side.view,
      hh]
  single := by
    intro e x s i hx hi hother
    refine (h.flag_eq (v := .combined) rfl hx).trans ?_
    cases s <;>
      simp_all [derived, heldFlag, Merged.presence, Presence.derive, PerSide.get, Side.other]
  no_violation := violations_eq_nil h

end Layers

/-- After any calls, on a workspace or on layers alone, the views agree. -/
theorem Overlay.agrees_run (ho : Overlay.ofComparison c = .ok o) :
    (∀ settings calls, ((Workspace.new o settings).run calls).overlay = o ∧
      Layers.Agrees o ((Workspace.new o settings).run calls).layers) ∧
    ∀ calls, Layers.Agrees o ((Layers.allVisible o).run o calls) := by
  have hc := coherent_ofComparison ho
  constructor
  · intro settings calls
    have hrun := Workspace.coupled_run hc (Workspace.coupled_new hc settings) calls
    exact ⟨hrun.overlay_eq, Layers.agrees_of_derived hrun.derived⟩
  · intro calls
    exact Layers.agrees_of_derived (Layers.derived_run hc (Layers.derived_allVisible hc) calls)

theorem Overlay.agrees_run_sample : ∃ o, ofComparison .sample = .ok o ∧
    Layers.Agrees o ((Workspace.new o {}).run
      [.collapse [3], .setVisible .primary (.edge 2) true,
        .unhide ⟨fun _ => .yes, fun _ => none⟩]).layers ∧
    Layers.Agrees o ((Layers.allVisible o).run o
      [.setNodeVisibleAt .secondary ⟨4⟩ false, .adoptSuper]) := by
  obtain ⟨o, ho, _⟩ := exists_sample
  obtain ⟨hworkspace, hlayers⟩ := agrees_run ho
  exact ⟨o, ho, (hworkspace _ _).2, hlayers _⟩

end GraphCompare
