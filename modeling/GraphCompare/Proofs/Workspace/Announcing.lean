import GraphCompare.Proofs.Event.Delivery
import GraphCompare.Proofs.Settings.Difference
import GraphCompare.Proofs.Workspace.Unhiding

/-! No change goes unannounced: whoever is registered throughout a call hears of all that it has
changed. Calls that refuse or fail are silent. -/
namespace GraphCompare
variable {c : Comparison} {o : Overlay} {w w' : Workspace} {host : Host} {s : Side} {e : Element}
  {a : Address} {visible : Bool} {keep : Array Bool} {focus : List NodeId} {id : NodeId}
  {call : Workspace.Call} {f : Failure} {α : Type}

namespace Selection

theorem select_false {l : Selection} {additive : Bool} (h : (l.select id additive).1 = false) :
    (l.select id additive).2 = l := by
  unfold select at h ⊢
  split at h
  · split at h <;> simp_all
  · split at h <;> simp_all

theorem toggle_true (l : Selection) (id : NodeId) : (l.toggle id).1 = true := by
  unfold toggle
  split <;> rfl

theorem clear_false {l : Selection} (h : l.clear.1 = false) : l.clear.2 = l := by
  obtain ⟨ids⟩ := l
  have hempty : ids = [] := by simpa [clear, isEmpty] using h
  rw [hempty]
  rfl

end Selection

namespace Event

theorem mem_visibility (v : View) : .visibilityChanged v ∈ visibility := by
  cases v <;> decide

end Event

namespace Workspace
open Notice

/-- What has to be heard when one workspace becomes another. -/
structure Announced (w w' : Workspace) (heard : Event → Prop) : Prop where
  visibility : w'.layers ≠ w.layers → ∀ v, heard (.visibilityChanged v)
  markers : w'.markers ≠ w.markers → heard .markersChanged
  selection : w'.selection ≠ w.selection → heard .selectionChanged
  /-- Exactly the keys that differ. -/
  settings : ∀ key, heard (.settingsChanged key) ↔ w.settings.Differs w'.settings key

/-- The events of an outcome announce what it has changed. -/
def Tells (w : Workspace) (out : Outcome Workspace α) : Prop :=
  Announced w out.state (· ∈ delivered out.notices)

theorem announced_congr {heard heard' : Event → Prop} (h : Announced w w' heard)
    (heq : ∀ e, heard' e ↔ heard e) : Announced w w' heard' where
  visibility hne v := (heq _).mpr (h.visibility hne v)
  markers hne := (heq _).mpr (h.markers hne)
  selection hne := (heq _).mpr (h.selection hne)
  settings key := (heq _).trans (h.settings key)

theorem tells_still (w : Workspace) (x : α) : Tells w (.still w x) where
  visibility hne := absurd rfl hne
  markers hne := absurd rfl hne
  selection hne := absurd rfl hne
  settings key := iff_of_false List.not_mem_nil (Settings.not_differs_self w.settings key)

/-- Events about all views, with one about the markers if these have changed. -/
theorem announced_of_shown {es : List Event} (hselection : w'.selection = w.selection)
    (hsettings : w'.settings = w.settings)
    (hmarkers : w'.markers ≠ w.markers → .markersChanged ∈ es)
    (hkeys : ∀ key, .settingsChanged key ∉ es) :
    Announced w w' (· ∈ Event.visibility ++ es) where
  visibility _ v := List.mem_append_left _ (Event.mem_visibility v)
  markers hne := List.mem_append_right _ (hmarkers hne)
  selection hne := absurd hselection hne
  settings key := by
    rw [hsettings]
    refine iff_of_false ?_ (Settings.not_differs_self w.settings key)
    simp [Event.visibility, hkeys]

theorem tells_setVisible (hc : o.Coherent) (hw : Coupled o w) {out : Outcome Workspace Bool}
    (h : w.setVisible s e visible = .ok out) : Tells w out := by
  obtain ⟨rfl, hd⟩ := hw
  obtain ⟨ls, hok, hstate, hnotices⟩ := setVisible_ok h
  unfold Tells
  rw [hstate, hnotices]
  cases hresult : out.result with
  | false =>
    -- The flag was as asked for, and then no flag of any view has moved.
    rw [hresult] at hok
    obtain rfl := Layers.eq_of_setVisible_unchanged hc hd hok
    exact tells_still w ()
  | true =>
    simp only [if_true, delivered_events]
    cases hm : w.markers.isNone with
    | true => exact announced_of_shown rfl rfl (by simp) (by simp)
    | false => exact announced_of_shown rfl rfl (by simp) (by simp)

theorem tells_withSelection {change : Bool × Selection}
    (h : change.1 = false → change.2 = w.selection) : Tells w (w.withSelection change) := by
  obtain ⟨changed, l⟩ := change
  cases changed with
  | false =>
    obtain rfl : l = w.selection := h rfl
    exact tells_still w ()
  | true =>
    refine ⟨fun hne => absurd rfl hne, fun hne => absurd rfl hne, fun _ => ?_, fun key => ?_⟩
    · simp [withSelection, delivered, event?]
    · refine iff_of_false ?_ (Settings.not_differs_self w.settings key)
      simp [withSelection, delivered, event?]

theorem tells_updateSettings {overrides : Json} {out : Outcome Workspace (List SettingKey)}
    (h : w.updateSettings overrides = .ok out) : Tells w out := by
  obtain ⟨change, hok, hstate, hnotices⟩ := updateSettings_ok h
  unfold Tells
  rw [hstate, hnotices, delivered_events]
  refine ⟨fun hne => absurd rfl hne, fun hne => absurd rfl hne, fun hne => absurd rfl hne, ?_⟩
  intro key
  rw [← Settings.mem_of_override hok]
  simp

theorem tells_setBrowsing (w : Workspace) (enabled : Bool) : Tells w (w.setBrowsing enabled) := by
  unfold setBrowsing
  split
  · exact tells_still w _
  · rename_i hne
    refine ⟨fun h => absurd rfl h, fun h => absurd rfl h, fun h => absurd rfl h, fun key => ?_⟩
    cases key <;> simp [delivered, event?, Settings.Differs, hne]

theorem tells_showOnly {out : Outcome Workspace Counts} (h : w.showOnly keep = .ok out) :
    Tells w out := by
  obtain ⟨ls, _, hstate, hnotices⟩ := showOnly_ok h
  unfold Tells
  rw [hstate, hnotices, delivered_events]
  exact announced_of_shown rfl rfl (by simp) (by simp)

theorem tells_collapse {out : Outcome Workspace Counts} (h : w.collapse focus = .ok out) :
    Tells w out := by
  rcases collapse_cases h with rfl | hshow
  · exact tells_still w _
  · exact tells_showOnly hshow

/-- Also where the layout engine fails. -/
theorem tells_revealAll (w : Workspace) (host : Host) (nodes edges : Nat) :
    Tells w (w.revealAll host nodes edges) := by
  unfold Tells
  rw [delivered_revealAll, state_revealAll]
  exact announced_of_shown rfl rfl (by simp) (by simp)

theorem tells_unhide (w : Workspace) (host : Host) : Tells w (w.unhide host) := by
  have hending := ending_unhide w host
  generalize w.unhide host = out at hending ⊢
  cases hending with
  | needless hh => exact tells_still w _
  | unasked hh hfew => exact tells_revealAll w host _ _
  | agreed hh hmany hyes => exact tells_revealAll w host _ _
  | refused hh hmany hno => exact tells_setBrowsing w true

theorem tells_settled {r : Except Failure (Outcome Workspace α)}
    (h : ∀ out, r = .ok out → Tells w out) : Tells w (w.settled r) := by
  cases r with
  | error f => exact tells_still w _
  | ok out => exact h out rfl

theorem tells_perform (hc : o.Coherent) (hw : Coupled o w) (call : Call) :
    Tells w (w.perform call) := by
  cases call with
  | setVisible s e visible => exact tells_settled fun _ hok => tells_setVisible hc hw hok
  | setNodeVisibleAt s a visible =>
    apply tells_settled
    intro out hok
    obtain ⟨v, _, hv⟩ := setVisible_of_setNodeVisibleAt hok
    exact tells_setVisible hc hw hv
  | select id additive => exact tells_withSelection (w := w) Selection.select_false
  | toggleSelected id =>
    apply tells_withSelection (w := w)
    rw [Selection.toggle_true]
    exact nofun
  | clearSelection => exact tells_withSelection (w := w) Selection.clear_false
  | updateSettings overrides => exact tells_settled fun _ hok => tells_updateSettings hok
  | setBrowsing enabled => exact tells_setBrowsing w enabled
  | unhide host => exact tells_unhide w host
  | collapse focus => exact tells_settled fun _ hok => tells_collapse hok
  | collapseToSelection => exact tells_settled fun _ hok => tells_collapse hok
  | reveal id => exact tells_settled fun _ hok => tells_showOnly (showOnly_of_reveal hok)

theorem settled_of_error {r : Except Failure (Outcome Workspace α)}
    (h : (w.settled r).result = .error f) : w.settled r = .still w (.error f) := by
  cases r with
  | error f' =>
    cases h
    rfl
  | ok out => cases h

/-- A call that fails for another reason has done nothing. -/
theorem perform_of_error (h : (w.perform call).result = .error f)
    (hf : ∀ reason, f ≠ .layout reason) : w.perform call = .still w (.error f) := by
  cases call with
  | setVisible | setNodeVisibleAt | updateSettings | collapse | collapseToSelection | reveal =>
    exact settled_of_error h
  | select | toggleSelected | clearSelection | setBrowsing => cases h
  | unhide host =>
    obtain ⟨_, reason, _, rfl⟩ := layoutFails_of_unhide (eq_error_of_map h)
    exact absurd rfl (hf reason)

/-- What calls on a workspace let the outside know. -/
structure Announces (w : Workspace) : Prop where
  /-- To anyone registered throughout the call, whether it fails or not. -/
  heard : ∀ (call : Call) (r : Registry) (k : Nat),
    (r.relay (w.perform call).notices).2.Holds k →
    Announced w (w.after call) fun e => .heard k e ∈ (r.relay (w.perform call).notices).1
  /-- No setting is without a key to be heard of by. -/
  keyed : ∀ call, w.settings ≠ (w.after call).settings →
    ∃ key, w.settings.Differs (w.after call).settings key
  setVisible_false : ∀ s e visible out, w.setVisible s e visible = .ok out →
    out.result = false → out.notices = []
  select_false : ∀ id additive, (w.select id additive).result = false →
    (w.select id additive).notices = []
  clearSelection_false : w.clearSelection.result = false → w.clearSelection.notices = []
  failed : ∀ call f, (w.perform call).result = .error f → (∀ reason, f ≠ .layout reason) →
    (w.perform call).notices = [] ∧ w.after call = w
  /-- Nothing fails after the first of many flags. -/
  showing_ok : ∀ keep, ∃ ls, w.layers.showing w.overlay keep = .ok ls

theorem notices_withSelection {change : Bool × Selection}
    (h : (w.withSelection change).result = false) : (w.withSelection change).notices = [] := by
  obtain ⟨changed, l⟩ := change
  cases h
  rfl

theorem announces_coupled (hc : o.Coherent) (hw : Coupled o w) : Announces w where
  heard call r k hholds :=
    announced_congr (tells_perform hc hw call) fun _ => Registry.heard_relay hholds
  keyed _ := Settings.exists_differs
  setVisible_false := by
    intro s e visible out hok hfalse
    obtain ⟨ls, _, _, hnotices⟩ := setVisible_ok hok
    rw [hnotices, hfalse]
    rfl
  select_false _ _ := notices_withSelection
  clearSelection_false := notices_withSelection
  failed := by
    intro call f herror hf
    have hstill := perform_of_error herror hf
    rw [after, hstill]
    exact ⟨rfl, rfl⟩
  showing_ok := by
    intro keep
    obtain ⟨rfl, hd⟩ := hw
    obtain ⟨ls, hls, _⟩ := Layers.showing_ok hc hd keep
    exact ⟨ls, hls⟩

theorem announces_reachable (hw : Reachable c w) : Announces w := by
  obtain ⟨o, _, hc, h⟩ := exists_coupled hw
  exact announces_coupled hc h

theorem announces_sample : ∃ w, Reachable .sample w ∧
    (w.after (.reveal 0)).markers ≠ w.markers ∧
    ((Registry.empty.subscribe fun _ => []).2.relay (w.perform (.reveal 0)).notices).2.Holds 0 ∧
    Announces w := by
  obtain ⟨w, hw, hreveal⟩ := exists_sample_run {} [.setVisible .primary (.node 2) false]
    (p := fun w => (w.after (.reveal 0)).markers ≠ w.markers ∧
      ((Registry.empty.subscribe fun _ => []).2.relay (w.perform (.reveal 0)).notices).2.Holds 0)
    (by decide +kernel)
  obtain ⟨hmarkers, hholds⟩ := of_decide_eq_true hreveal
  exact ⟨w, hw, hmarkers, hholds, announces_reachable hw⟩

end Workspace

end GraphCompare
