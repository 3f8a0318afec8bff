import GraphCompare.Proofs.Window.Reaction

/-! Refusing to make everything visible. Whatever it was that ended live browsing, a refusal turns
that back, and nothing else has happened. -/
namespace GraphCompare
variable {ws : Workspace} {w : Window} {host : Host} {overrides : Json} {t : Settings}
  {changed : List SettingKey} {ns ms : List Notice}
open Notice

/-- Something was asked, and the answer was no, or there was none. -/
def Host.Refuses (host : Host) (ns : List Notice) : Prop :=
  asked ns ≠ [] ∧ ∀ text ∈ asked ns, host.answer text ≠ .yes

theorem Host.refuses_congr (h : asked ns = asked ms) : host.Refuses ns ↔ host.Refuses ms := by
  rw [Refuses, Refuses, h]

namespace Workspace

/-- To end browsing would come to a question, and that would not be answered with yes. -/
structure IsRefused (w : Workspace) (host : Host) : Prop where
  hidden : w.hasHiddenNodes = true
  many : w.settings.warningThreshold.toNat ≤ w.layers.combined.hiddenCount .edge
  answer_ne : host.answer w.question ≠ .yes

/-- Whether browsing is live has no part in what is asked. -/
theorem isRefused_setEnabled (ws : Workspace) (host : Host) (enabled : Bool) :
    IsRefused { ws with settings.browsing.enabled := enabled } host ↔ ws.IsRefused host :=
  ⟨fun h => ⟨h.hidden, h.many, h.answer_ne⟩, fun h => ⟨h.hidden, h.many, h.answer_ne⟩⟩

theorem refuses_unhide_iff : host.Refuses (ws.unhide host).notices ↔ ws.IsRefused host := by
  rw [Host.Refuses, asked_unhide]
  constructor
  · rintro ⟨hasked, hanswer⟩
    split at hasked
    · rename_i h
      rw [if_pos h] at hanswer
      exact ⟨h.1, h.2, hanswer ws.question List.mem_cons_self⟩
    · exact absurd rfl hasked
  · intro h
    rw [if_pos ⟨h.hidden, h.many⟩]
    exact ⟨List.cons_ne_nil _ _, fun text htext => List.mem_singleton.mp htext ▸ h.answer_ne⟩

theorem result_unhide_eq_declined :
    (ws.unhide host).result = .ok .declined ↔ ws.IsRefused host := by
  have hending := ending_unhide ws host
  generalize ws.unhide host = out at hending ⊢
  cases hending with
  | needless hh =>
    refine iff_of_false nofun fun h => ?_
    cases h.hidden.symm.trans hh
  | unasked hh hfew =>
    exact iff_of_false (revealAll_result_ne ws host _ _).2 fun h =>
      absurd hfew (Nat.not_lt.mpr h.many)
  | agreed hh hmany hyes =>
    exact iff_of_false (revealAll_result_ne ws host _ _).2 fun h => h.answer_ne hyes
  | refused hh hmany hno => exact iff_of_true rfl ⟨hh, hmany, hno⟩

theorem state_unhide_of_isRefused (h : ws.IsRefused host) :
    (ws.unhide host).state = { ws with settings.browsing.enabled := true } := by
  rw [unhide_of_no h.hidden h.many h.answer_ne]
  exact state_setBrowsing ws true

theorem setEnabled_eq_self (h : ws.settings.browsing.enabled = true) :
    { ws with settings.browsing.enabled := true } = ws := by
  rw [← state_setBrowsing, setBrowsing, if_pos h]
  rfl

end Workspace

namespace Window
open Workspace (IsRefused)

/-- Where live browsing is off it comes to showing everything. -/
theorem browsingSwitched_of_off (host : Host)
    (h : w.workspace.settings.browsing.enabled = false) :
    w.browsingSwitched host = (w.unhideAll host).map fun r => r.map some := by
  rw [browsingSwitched, if_neg (by simp [h])]

section switching

theorem setBrowsing_of_off (host : Host) (h : w.workspace.settings.browsing.enabled = false) :
    w.setBrowsing false host = .still w (.ok none) := by
  have hstep : w.workspace.setBrowsing false = .still w.workspace false := by
    simp [Workspace.setBrowsing, h]
  unfold setBrowsing
  rw [hstep]
  rfl

/-- Live browsing is off while it is asked whether it may end. -/
theorem setBrowsing_of_on (host : Host) (h : w.workspace.settings.browsing.enabled = true) :
    w.setBrowsing false host =
      let rest := Workspace.unhide { w.workspace with settings.browsing.enabled := false } host
      ⟨{ w with workspace := rest.state },
        .event (.settingsChanged .proximityBrowsing) :: rest.notices, rest.result.map some⟩ := by
  have hstep : w.workspace.setBrowsing false =
      ⟨{ w.workspace with settings.browsing.enabled := false },
        [.event (.settingsChanged .proximityBrowsing)], true⟩ := by
    simp [Workspace.setBrowsing, h]
  unfold setBrowsing
  rw [hstep]
  simp only [withWorkspace, Bool.not_true, Bool.false_eq_true, if_false]
  rw [Outcome.andThen_of_ok rfl, browsingSwitched_of_off host rfl]
  rfl

theorem refuses_setBrowsing_iff : host.Refuses (w.setBrowsing false host).notices ↔
    w.workspace.settings.browsing.enabled = true ∧ w.workspace.IsRefused host := by
  cases hon : w.workspace.settings.browsing.enabled with
  | false =>
    rw [setBrowsing_of_off host hon]
    simp [Host.Refuses, Outcome.still, asked]
  | true =>
    rw [← Workspace.isRefused_setEnabled w.workspace host false, ← Workspace.refuses_unhide_iff,
      setBrowsing_of_on host hon]
    simp only [true_and]
    exact Host.refuses_congr rfl

theorem result_setBrowsing_eq_declined :
    (w.setBrowsing false host).result = .ok (some .declined) ↔
      w.workspace.settings.browsing.enabled = true ∧ w.workspace.IsRefused host := by
  cases hon : w.workspace.settings.browsing.enabled with
  | false =>
    rw [setBrowsing_of_off host hon]
    simp [Outcome.still]
  | true =>
    rw [← Workspace.isRefused_setEnabled w.workspace host false,
      ← Workspace.result_unhide_eq_declined, setBrowsing_of_on host hon]
    simp only [true_and]
    cases (Workspace.unhide _ host).result <;> simp [Except.map]

/-- The switch that a refusal turns back leaves no trace. -/
theorem state_setBrowsing_of_isRefused (hon : w.workspace.settings.browsing.enabled = true)
    (h : w.workspace.IsRefused host) : (w.setBrowsing false host).state = w := by
  have hoff := (Workspace.isRefused_setEnabled w.workspace host false).mpr h
  rw [setBrowsing_of_on host hon]
  simp only [Workspace.state_unhide_of_isRefused hoff]
  exact congrArg (fun ws => { w with workspace := ws }) (Workspace.setEnabled_eq_self hon)

end switching

section overriding

theorem asked_couplingChanged (w : Window) (changed : List SettingKey) :
    asked (w.couplingChanged changed).notices = [] := by
  unfold couplingChanged
  split
  · change asked (w.surfaces.showSuper w.coupling).notices = []
    unfold Surfaces.showSuper
    dsimp only
    split
    · exact asked_redraws _ _
    · rfl
  · rfl

/-- Of all that new settings lead to, only the reaction of browsing asks. -/
theorem asked_updateSettings (host : Host)
    (h : w.workspace.settings.override overrides = .ok (changed, t)) :
    asked (w.updateSettings overrides host).notices =
      asked ((w.withSettings t).browsingChanged changed host).notices := by
  rw [updateSettings_of_ok host h]
  simp only [asked_append, asked_events, List.nil_append]
  cases hr : ((w.withSettings t).browsingChanged changed host).result with
  | error f => rw [Outcome.andThen_of_error hr]
  | ok a =>
    rw [Outcome.andThen_of_ok hr, asked_append]
    exact (congrArg _ (asked_couplingChanged _ changed)).trans (List.append_nil _)

/-- An override that ends live browsing comes to showing everything. -/
theorem browsingChanged_of_ended (host : Host)
    (h : w.workspace.settings.override overrides = .ok (changed, t))
    (hon : w.workspace.settings.browsing.enabled = true) (hoff : t.browsing.enabled = false) :
    (w.withSettings t).browsingChanged changed host =
      ((w.withSettings t).unhideAll host).map fun r => r.map fun _ => () := by
  have hmem : .proximityBrowsing ∈ changed := by
    rw [Settings.mem_of_override h]
    simp [Settings.Differs, hon, hoff]
  rw [browsingChanged, if_pos (List.contains_iff_mem.mpr hmem), browsingSwitched_of_off host hoff]
  simp only [Outcome.map]
  cases ((w.withSettings t).unhideAll host).result <;> rfl

theorem refuses_updateSettings_iff
    (h : w.workspace.settings.override overrides = .ok (changed, t))
    (hon : w.workspace.settings.browsing.enabled = true) (hoff : t.browsing.enabled = false) :
    host.Refuses (w.updateSettings overrides host).notices ↔
      (w.withSettings t).workspace.IsRefused host := by
  rw [← Workspace.refuses_unhide_iff]
  apply Host.refuses_congr
  rw [asked_updateSettings host h, browsingChanged_of_ended host h hon hoff]
  rfl

/-- After a refusal the override goes on as if it had left live browsing on. -/
theorem updateSettings_of_isRefused
    (h : w.workspace.settings.override overrides = .ok (changed, t))
    (hon : w.workspace.settings.browsing.enabled = true) (hoff : t.browsing.enabled = false)
    (hrefused : (w.withSettings t).workspace.IsRefused host) :
    (w.updateSettings overrides host).result = .ok changed ∧
      (w.updateSettings overrides host).state =
        ((w.withSettings { t with browsing.enabled := true }).couplingChanged changed).state := by
  have hstep : (w.withSettings t).browsingChanged changed host =
      ⟨w.withSettings { t with browsing.enabled := true },
        ((w.withSettings t).workspace.unhide host).notices, .ok ()⟩ := by
    rw [browsingChanged_of_ended host h hon hoff]
    simp only [unhideAll, withWorkspace, Outcome.map,
      Workspace.result_unhide_eq_declined.mpr hrefused,
      Workspace.state_unhide_of_isRefused hrefused]
    rfl
  rw [updateSettings_of_ok host h, hstep, Outcome.andThen_of_ok rfl]
  refine ⟨?_, rfl⟩
  change (couplingChanged _ changed).result.map _ = _
  rw [result_couplingChanged]
  rfl

end overriding

/-- A refusal takes back that live browsing ends. -/
structure RollsBack (w : Window) (host : Host) : Prop where
  refuses_iff : host.Refuses (w.setBrowsing false host).notices ↔
    w.workspace.settings.browsing.enabled = true ∧ w.workspace.IsRefused host
  declined_iff : (w.setBrowsing false host).result = .ok (some .declined) ↔
    host.Refuses (w.setBrowsing false host).notices
  /-- Nothing of the window has changed. -/
  state_eq : host.Refuses (w.setBrowsing false host).notices →
    (w.setBrowsing false host).state = w
  override_iff : ∀ overrides changed t,
    w.workspace.settings.override overrides = .ok (changed, t) →
    w.workspace.settings.browsing.enabled = true → t.browsing.enabled = false →
    (host.Refuses (w.updateSettings overrides host).notices ↔
      (w.withSettings t).workspace.IsRefused host)
  /-- The rest of an override stands. It touches nothing but settings, unless it couples cameras. -/
  override_eq : ∀ overrides changed t,
    w.workspace.settings.override overrides = .ok (changed, t) →
    w.workspace.settings.browsing.enabled = true → t.browsing.enabled = false →
    host.Refuses (w.updateSettings overrides host).notices →
    (w.updateSettings overrides host).result = .ok changed ∧
      (w.updateSettings overrides host).state = { w with
        workspace.settings := { t with browsing.enabled := true }
        surfaces := if .synchronizedViews ∈ changed ∧ t.synchronizedViews = true then
          (w.surfaces.adoptSuper (w.withSettings t).coupling).2 else w.surfaces }

/-- Whether a switch or an override ends live browsing, a refusal rolls it back. -/
theorem rollsBack (w : Window) (host : Host) : RollsBack w host where
  refuses_iff := refuses_setBrowsing_iff
  declined_iff := result_setBrowsing_eq_declined.trans refuses_setBrowsing_iff.symm
  state_eq := by
    intro hrefuses
    obtain ⟨hon, hrefused⟩ := refuses_setBrowsing_iff.mp hrefuses
    exact state_setBrowsing_of_isRefused hon hrefused
  override_iff _ _ _ := refuses_updateSettings_iff
  override_eq := by
    intro overrides changed t h hon hoff hrefuses
    have hrefused := (refuses_updateSettings_iff h hon hoff).mp hrefuses
    obtain ⟨hok, hstate⟩ := updateSettings_of_isRefused h hon hoff hrefused
    refine ⟨hok, ?_⟩
    rw [hstate, state_couplingChanged]
    rfl

/-- A click has hidden nodes. Neither a switch nor an override that also couples the cameras makes
them visible. -/
theorem rollsBack_sample : ∃ w changed t, Reachable w ∧ w.workspace.hasHiddenNodes = true ∧
    (w.setBrowsing false refusingHost).result = .ok (some .declined) ∧
    (w.setBrowsing false refusingHost).state = w ∧
    w.workspace.settings.override (coupleCameras endBrowsing) = .ok (changed, t) ∧
    (w.updateSettings (coupleCameras endBrowsing) refusingHost).state.workspace =
      { w.workspace with settings := { t with browsing.enabled := true } } := by
  obtain ⟨w, hw, hrun⟩ := exists_sample_run
    { synchronizedViews := false, warningThreshold := 0, browsing := ⟨true, 0, 0⟩ }
    (sampleClick (.raw 0)) (p := fun w => w.workspace.hasHiddenNodes = true ∧
      w.workspace.settings.warningThreshold = 0 ∧
      w.workspace.settings.browsing.enabled = true ∧
      (w.workspace.settings.override (coupleCameras endBrowsing)).toOption.any fun change =>
        change.2.browsing.enabled = false ∧ change.2.warningThreshold = 0) (by decide +kernel)
  obtain ⟨hhidden, hzero, hon, hoverride⟩ := of_decide_eq_true hrun
  obtain ⟨⟨changed, t⟩, ht, hend⟩ := exists_ok_of_any hoverride
  obtain ⟨(hoff : t.browsing.enabled = false), (hzero' : t.warningThreshold = 0)⟩ :=
    of_decide_eq_true hend
  have hrolls := rollsBack w refusingHost
  have hrefused : w.workspace.IsRefused refusingHost :=
    ⟨hhidden, by simp [hzero], Decision.noConfusion⟩
  have hrefuses := hrolls.refuses_iff.mpr ⟨hon, hrefused⟩
  have hrefused' : (w.withSettings t).workspace.IsRefused refusingHost :=
    ⟨hhidden, by simp [withSettings, hzero'], Decision.noConfusion⟩
  have hrefuses' := (hrolls.override_iff _ changed t ht hon hoff).mpr hrefused'
  obtain ⟨_, hstate⟩ := hrolls.override_eq _ changed t ht hon hoff hrefuses'
  refine ⟨w, changed, t, hw, hhidden, hrolls.declined_iff.mpr hrefuses, hrolls.state_eq hrefuses,
    ht, ?_⟩
  rw [hstate]

end Window

end GraphCompare
