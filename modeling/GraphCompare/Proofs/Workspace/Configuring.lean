import GraphCompare.Proofs.Event.Subscribing
import GraphCompare.Proofs.Workspace.Announcing

/-! Settings through any calls. They stay valid; an override that is rejected leaves no trace, and
one that is taken over is reported key by key. -/
namespace GraphCompare
variable {c : Comparison} {w w' : Workspace} {s t : Settings} {overrides : Json} {f : Failure}
  {call : Workspace.Call} {host : Host} {α : Type} {h : List Moment} {r : Registry} {n : Notice}
  {ns : List Notice} {told : List Nat} {e : Event} {k : Nat}

/-- The event that a subscriber has heard on this arrival. -/
def Arrival.heardBy? (k : Nat) : Arrival → Option Event
  | .heard j e => if j = k then some e else none
  | .direct _ => none

namespace Registry

/-- All that a subscriber has heard, in order. -/
def heardBy (k : Nat) (as : List Arrival) : List Event := as.filterMap (Arrival.heardBy? k)

theorem heardBy_told (htold : told.Pairwise (· < ·)) (hk : k ∈ told) (e : Event) :
    heardBy k (told.map (.heard · e)) = [e] := by
  have hother : ∀ js : List Nat, k ∉ js → heardBy k (js.map (.heard · e)) = [] := by
    intro js hjs
    simp only [heardBy, List.filterMap_map, List.filterMap_eq_nil_iff]
    intro j hj
    have hjk : j ≠ k := fun heq => hjs (heq ▸ hj)
    simp [Arrival.heardBy?, hjk]
  obtain ⟨before, after, rfl⟩ := List.append_of_mem hk
  obtain ⟨_, hafter, hbefore⟩ := List.pairwise_append.mp htold
  have hbefore' := hother before fun hmem => Nat.lt_irrefl k (hbefore k hmem k List.mem_cons_self)
  have hafter' := hother after fun hmem =>
    Nat.lt_irrefl k ((List.pairwise_cons.mp hafter).1 k hmem)
  simp only [heardBy] at hbefore' hafter' ⊢
  simp [hbefore', hafter', Arrival.heardBy?]

theorem exists_records_deliver (hr : Records h r) (n : Notice) :
    ∃ h', Records h' (r.deliver n).2 := by
  cases n with
  | event e => exact ⟨_, records_emit hr e⟩
  | question | layout | redraw | content => exact ⟨h, hr⟩

theorem heardBy_deliver (hr : Records h r) (hk : (r.deliver n).2.Holds k) :
    heardBy k (r.deliver n).1 = n.event?.toList := by
  cases n with
  | event e => exact heardBy_told (emit_ascending hr e) (told_of_holds hk).2 e
  | question | layout | redraw | content => rfl

/-- A subscriber registered throughout hears the events that are sent, each once and in order. -/
theorem heardBy_relay (hr : Records h r) (hk : (r.relay ns).2.Holds k) :
    heardBy k (r.relay ns).1 = Notice.delivered ns := by
  induction ns generalizing h r with
  | nil => rfl
  | cons n ns ih =>
    have hrest : ((r.deliver n).2.relay ns).2.Holds k := hk
    obtain ⟨h', hr'⟩ := exists_records_deliver hr n
    have hfirst := heardBy_deliver hr (holds_of_relay hrest)
    have hothers := ih hr' hrest
    change heardBy k ((r.deliver n).1 ++ ((r.deliver n).2.relay ns).1) = _
    simp only [heardBy, List.filterMap_append] at hfirst hothers ⊢
    rw [hfirst, hothers]
    cases hn : n.event? <;> simp [Notice.delivered, hn]

end Registry

namespace Settings

/-- All that a call can do to settings. -/
inductive Step (s : Settings) : Settings → Prop
  | kept : Step s s
  | switched (enabled : Bool) : Step s { s with browsing.enabled := enabled }
  | overridden {overrides : Json} {change : List SettingKey × Settings}
    (h : s.override overrides = .ok change) : Step s change.2

theorem isValid_step (hs : s.isValid = true) (h : Step s t) : t.isValid = true := by
  cases h with
  | kept => exact hs
  | switched enabled => exact hs
  | overridden hok => exact (override_ok hok).1

theorem nodup_changedKeys (s t : Settings) : (s.changedKeys t).Nodup := by
  have hall : SettingKey.all.Nodup := by decide
  exact hall.filter _

end Settings

namespace Workspace

theorem settings_setVisible {side : Side} {e : Element} {visible : Bool}
    {out : Outcome Workspace Bool} (h : w.setVisible side e visible = .ok out) :
    out.state.settings = w.settings := by
  obtain ⟨ls, _, hstate, _⟩ := setVisible_ok h
  rw [hstate]

theorem settings_showOnly {keep : Array Bool} {out : Outcome Workspace Counts}
    (h : w.showOnly keep = .ok out) : out.state.settings = w.settings := by
  obtain ⟨ls, _, hstate, _⟩ := showOnly_ok h
  rw [hstate]

theorem settings_collapse {focus : List NodeId} {out : Outcome Workspace Counts}
    (h : w.collapse focus = .ok out) : out.state.settings = w.settings := by
  rcases collapse_cases h with rfl | hshow
  · rfl
  · exact settings_showOnly hshow

theorem step_unhide_settings (w : Workspace) (host : Host) :
    Settings.Step w.settings (w.unhide host).state.settings := by
  rcases (keeps_unhide w host).settings_or with hkept | hdeclined
  · exact hkept ▸ .kept
  · rw [hdeclined]
    exact .switched true

private theorem step_settled_settings {x : Except Failure (Outcome Workspace α)}
    (h : ∀ out, x = .ok out → Settings.Step w.settings out.state.settings) :
    Settings.Step w.settings (w.settled x).state.settings := by
  cases x with
  | error f => exact .kept
  | ok out => exact h out rfl

/-- A call keeps the settings, switches live browsing or overrides them. -/
theorem step_settings_after (w : Workspace) (call : Call) :
    Settings.Step w.settings (w.after call).settings := by
  cases call with
  | setVisible side e visible =>
    exact step_settled_settings fun _ hok => settings_setVisible hok ▸ .kept
  | setNodeVisibleAt side a visible =>
    apply step_settled_settings
    intro out hok
    obtain ⟨v, _, hv⟩ := setVisible_of_setNodeVisibleAt hok
    exact settings_setVisible hv ▸ .kept
  | select id additive => exact .kept
  | toggleSelected id => exact .kept
  | clearSelection => exact .kept
  | updateSettings overrides =>
    apply step_settled_settings
    intro out hok
    obtain ⟨change, hchange, hstate, _⟩ := updateSettings_ok hok
    rw [hstate]
    exact .overridden hchange
  | setBrowsing enabled =>
    change Settings.Step w.settings (w.setBrowsing enabled).state.settings
    rw [state_setBrowsing]
    exact .switched enabled
  | unhide host => exact step_unhide_settings w host
  | collapse focus => exact step_settled_settings fun _ hok => settings_collapse hok ▸ .kept
  | collapseToSelection =>
    exact step_settled_settings fun _ hok => settings_collapse hok ▸ .kept
  | reveal id =>
    exact step_settled_settings fun _ hok => settings_showOnly (showOnly_of_reveal hok) ▸ .kept

theorem isValid_run (h : w.settings.isValid = true) (calls : List Call) :
    (w.run calls).settings.isValid = true := by
  induction calls generalizing w with
  | nil => exact h
  | cons call calls ih => exact ih (Settings.isValid_step h (step_settings_after w call))

theorem isValid_ofComparison (h : ofComparison c s = .ok w) : w.settings.isValid = true := by
  unfold ofComparison at h
  obtain ⟨_, hvalid, h⟩ := exists_of_bind_ok h
  obtain ⟨o, _, h⟩ := exists_of_bind_ok h
  cases h
  unfold Settings.validate at hvalid
  split at hvalid
  · assumption
  · cases hvalid

/-- How an override that is taken over is reported. -/
structure Reports (w : Workspace) (out : Outcome Workspace (List SettingKey)) : Prop where
  mem_iff : ∀ key, key ∈ out.result ↔ w.settings.Differs out.state.settings key
  nodup : out.result.Nodup
  notices_eq : out.notices = Notice.events (out.result.map .settingsChanged)
  /-- Whoever is registered throughout hears of each of the keys, in their order. -/
  heard : ∀ calls k, ((Registry.empty.run calls).relay out.notices).2.Holds k →
    Registry.heardBy k ((Registry.empty.run calls).relay out.notices).1 =
      out.result.map .settingsChanged

theorem reports_updateSettings {out : Outcome Workspace (List SettingKey)}
    (h : w.updateSettings overrides = .ok out) : Reports w out := by
  cases ho : w.settings.override overrides with
  | error f =>
    rw [updateSettings_of_error ho] at h
    cases h
  | ok change =>
    obtain ⟨changed, t⟩ := change
    rw [updateSettings_of_ok ho] at h
    cases h
    refine ⟨fun key => Settings.mem_of_override ho, ?_, rfl, ?_⟩
    · rw [show changed = _ from (Settings.override_ok ho).2]
      exact Settings.nodup_changedKeys _ _
    · intro calls k hk
      have hrecords := Registry.records_run Registry.records_empty calls
      rw [Registry.heardBy_relay hrecords hk, Notice.delivered_events]

/-- What holds of the settings of a workspace at any time. -/
structure Configured (w : Workspace) : Prop where
  factor_pos : 0 < w.settings.zoomOutFactor
  factor_lt : w.settings.zoomOutFactor < 1
  /-- Nothing at all has changed, and nobody hears of it. -/
  rejected : ∀ overrides f, w.updateSettings overrides = .error f →
    w.perform (.updateSettings overrides) = .still w (.error f)
  accepted : ∀ overrides out, w.updateSettings overrides = .ok out → Reports w out

/-- Whatever JSON a workspace is given to override its settings, among any other calls. -/
theorem configured_run (h : ofComparison c s = .ok w) (calls : List Call) :
    Configured (w.run calls) := by
  have hvalid := isValid_run (isValid_ofComparison h) calls
  obtain ⟨hpos, hlt⟩ := Settings.isValid_iff.mp hvalid
  refine ⟨hpos, hlt, ?_, fun _ _ => reports_updateSettings⟩
  intro overrides f herror
  rw [perform, herror]
  rfl

/-- A factor that is too large, with a setting besides that would do. -/
def unzoomed : Json := .object [("automaticLayouting", .bool false), ("zoomOutFactor", .ofCount 1)]

/-- An array gives the first settings and resets the others. -/
theorem configured_sample : ∃ w w' out f, ofComparison .sample { zoomOutFactor := 0.5 } = .ok w ∧
    w' = w.run [.setBrowsing true, .collapse [2]] ∧
    w'.updateSettings (.array [.bool false]) = .ok out ∧
    out.result = [.synchronizedViews, .zoomOutFactor, .proximityBrowsing] ∧ Reports w' out ∧
    w'.updateSettings unzoomed = .error f ∧
    w'.perform (.updateSettings unzoomed) = .still w' (.error f) := by
  obtain ⟨w, hw, hrun⟩ := exists_ok_of_any (x := ofComparison .sample { zoomOutFactor := 0.5 })
    (p := fun w =>
      let w' := w.run [.setBrowsing true, .collapse [2]]
      ((w'.updateSettings (.array [.bool false])).toOption.any fun out =>
        out.result = [.synchronizedViews, .zoomOutFactor, .proximityBrowsing]) ∧
      (w'.updateSettings unzoomed).toOption.isNone) (by decide +kernel)
  obtain ⟨hok, herror⟩ := of_decide_eq_true hrun
  obtain ⟨out, hout, hkeys⟩ := exists_ok_of_any hok
  have hconfigured := configured_run hw [.setBrowsing true, .collapse [2]]
  cases hrejected : (w.run [.setBrowsing true, .collapse [2]]).updateSettings unzoomed with
  | error f =>
    exact ⟨w, _, out, f, hw, rfl, hout, of_decide_eq_true hkeys, hconfigured.accepted _ out hout,
      hrejected, hconfigured.rejected _ f hrejected⟩
  | ok out =>
    rw [hrejected] at herror
    cases herror

end Workspace

end GraphCompare
