import GraphCompare.Proofs.Event.Notices
import GraphCompare.Proofs.Layer.Revealing
import GraphCompare.Proofs.Workspace.Markers

/-! Ending to browse: when a question is asked, what a refusal leaves, and what becomes visible
otherwise. Hidden nodes decide whether there is anything to do, so an edge that was hidden by itself
stays hidden. -/
namespace GraphCompare
variable {c : Comparison} {o : Overlay} {w : Workspace} {host : Host}

/-- A failure that the layout engine gives for some workspace. -/
def Host.LayoutFails (host : Host) (f : Failure) : Prop :=
  ∃ laid reason, host.layout laid = some reason ∧ f = .layout reason

namespace Workspace
open Notice

/-- What the one who answers questions is asked before everything becomes visible. -/
def question (w : Workspace) : String :=
  revealQuestion (w.layers.combined.hiddenCount .node) (w.layers.combined.hiddenCount .edge)

/-- What a refusal leaves: live browsing is on, and nothing else has changed. -/
structure Declined (w : Workspace) (out : Outcome Workspace (Except Failure Unhiding)) : Prop where
  result_eq : out.result = .ok .declined
  state_eq : out.state = { w with settings.browsing.enabled := true }
  delivered_eq : delivered out.notices =
    if w.settings.browsing.enabled then [] else [.settingsChanged .proximityBrowsing]
  redrawn_eq : redrawn out.notices = []
  laidOut_eq : laidOut out.notices = []

/-- What making everything visible leaves, whether the layout engine then fails or not. -/
structure Revealed (w : Workspace) (host : Host)
    (out : Outcome Workspace (Except Failure Unhiding)) : Prop where
  overlay_eq : out.state.overlay = w.overlay
  visible : Layers.FullyVisible w.overlay out.state.layers
  unmarked : ∀ v, out.state.markers.get v = []
  selection_eq : out.state.selection = w.selection
  settings_eq : out.state.settings = w.settings
  delivered_eq : delivered out.notices = Event.visibility ++ [.markersChanged, .visibilitySettled]
  /-- Every view is drawn anew, and once more after a layout that succeeds. -/
  redrawn_eq : redrawn out.notices = View.all.map (·, .full) ++
    if w.settings.automaticLayout = true ∧ host.layout out.state = none then
      View.all.map (·, .full)
    else []
  /-- The layout engine runs once if layouts are automatic, when no node is hidden any more. -/
  laidOut_eq : laidOut out.notices = if w.settings.automaticLayout then [false] else []
  result_eq : out.result =
    match if w.settings.automaticLayout then host.layout out.state else none with
    | some reason => .error (.layout reason)
    | none => .ok (.revealed (w.layers.combined.hiddenCount .node)
        (w.layers.combined.hiddenCount .edge))

/-- The protocol of ending to browse. -/
structure EndsBrowsing (w : Workspace) (host : Host)
    (out : Outcome Workspace (Except Failure Unhiding)) : Prop where
  /-- The answer is that nothing was hidden just when no node of a side was. -/
  nothing_hidden_iff : out.result = .ok .nothingHidden ↔
    ∀ s : Side, ∀ u < w.overlay.nodeCount s.view, (w.layers.get s.view).get (.node u) = true
  nothing_hidden : out.result = .ok .nothingHidden → out.notices = [] ∧ out.state = w
  /-- One question where enough edges are hidden, and none otherwise. -/
  asked_eq : out.result ≠ .ok .nothingHidden → asked out.notices =
    if w.settings.warningThreshold.toNat ≤ w.layers.combined.hiddenCount .edge then [w.question]
    else []
  declined : asked out.notices ≠ [] → host.answer w.question ≠ .yes → Declined w out
  revealed : out.result ≠ .ok .nothingHidden →
    (asked out.notices = [] ∨ host.answer w.question = .yes) → Revealed w host out

theorem hasHiddenNodes_eq_false (h : Coupled o w) :
    w.hasHiddenNodes = false ↔
      ∀ s : Side, ∀ u < o.nodeCount s.view, (w.layers.get s.view).get (.node u) = true := by
  have hcount : ∀ s : Side, (w.layers.get s.view).hiddenCount .node = 0 ↔
      ∀ u < o.nodeCount s.view, (w.layers.get s.view).get (.node u) = true := by
    intro s
    rw [Layer.hiddenCount_eq_zero, h.derived.sized s.view .node]
    constructor
    · intro hall u hu
      exact hall (.node u) rfl hu
    · intro hall e hk he
      cases e with
      | node u => exact hall u he
      | edge u => cases hk
  have hboth : w.hasHiddenNodes = false ↔
      ∀ s : Side, (w.layers.get s.view).hiddenCount .node = 0 := by
    simp [hasHiddenNodes]
  rw [hboth]
  exact forall_congr' hcount

/-- What ending to browse leaves alone. -/
structure Keeps (w w' : Workspace) : Prop where
  overlay_eq : w'.overlay = w.overlay
  selection_eq : w'.selection = w.selection
  /-- Live browsing may be turned on, by a refusal that changes nothing else. -/
  settings_or : w'.settings = w.settings ∨ w' = { w with settings.browsing.enabled := true }

theorem Keeps.refl (w : Workspace) : Keeps w w := ⟨rfl, rfl, .inl rfl⟩

section cases

theorem unhide_of_visible (h : w.hasHiddenNodes = false) :
    w.unhide host = .still w (.ok .nothingHidden) := by
  simp [unhide, h]

theorem unhide_of_few (h : w.hasHiddenNodes = true)
    (hfew : w.layers.combined.hiddenCount .edge < w.settings.warningThreshold.toNat) :
    w.unhide host = w.revealAll host (w.layers.combined.hiddenCount .node)
      (w.layers.combined.hiddenCount .edge) := by
  simp [unhide, h, Nat.not_le.mpr hfew]

theorem unhide_of_yes (h : w.hasHiddenNodes = true)
    (hmany : w.settings.warningThreshold.toNat ≤ w.layers.combined.hiddenCount .edge)
    (hyes : host.answer w.question = .yes) :
    w.unhide host =
      let out := w.revealAll host (w.layers.combined.hiddenCount .node)
        (w.layers.combined.hiddenCount .edge)
      { out with notices := .question w.question :: out.notices } := by
  have hanswer : (host.answer w.question).isYes = true := by simp [Decision.isYes, hyes]
  unfold question at hanswer ⊢
  simp [unhide, h, hmany, hanswer]

theorem unhide_of_no (h : w.hasHiddenNodes = true)
    (hmany : w.settings.warningThreshold.toNat ≤ w.layers.combined.hiddenCount .edge)
    (hno : host.answer w.question ≠ .yes) :
    w.unhide host = ⟨(w.setBrowsing true).state,
      .question w.question :: (w.setBrowsing true).notices, .ok .declined⟩ := by
  have hanswer : (host.answer w.question).isYes = false := by simp [Decision.isYes, hno]
  unfold question at hanswer ⊢
  simp [unhide, h, hmany, hanswer]

/-- The ways in which ending to browse can go. -/
inductive Ending (w : Workspace) (host : Host) : Outcome Workspace (Except Failure Unhiding) → Prop
  | needless (hh : w.hasHiddenNodes = false) : Ending w host (.still w (.ok .nothingHidden))
  | unasked (hh : w.hasHiddenNodes = true)
      (hfew : w.layers.combined.hiddenCount .edge < w.settings.warningThreshold.toNat) :
      Ending w host (w.revealAll host (w.layers.combined.hiddenCount .node)
        (w.layers.combined.hiddenCount .edge))
  | agreed (hh : w.hasHiddenNodes = true)
      (hmany : w.settings.warningThreshold.toNat ≤ w.layers.combined.hiddenCount .edge)
      (hyes : host.answer w.question = .yes) :
      Ending w host
        (let out := w.revealAll host (w.layers.combined.hiddenCount .node)
          (w.layers.combined.hiddenCount .edge)
        { out with notices := .question w.question :: out.notices })
  | refused (hh : w.hasHiddenNodes = true)
      (hmany : w.settings.warningThreshold.toNat ≤ w.layers.combined.hiddenCount .edge)
      (hno : host.answer w.question ≠ .yes) :
      Ending w host ⟨(w.setBrowsing true).state,
        .question w.question :: (w.setBrowsing true).notices, .ok .declined⟩

theorem ending_unhide (w : Workspace) (host : Host) : Ending w host (w.unhide host) := by
  cases hh : w.hasHiddenNodes with
  | false => exact unhide_of_visible hh ▸ .needless hh
  | true =>
    rcases Nat.lt_or_ge (w.layers.combined.hiddenCount .edge)
      w.settings.warningThreshold.toNat with hfew | hmany
    · exact unhide_of_few hh hfew ▸ .unasked hh hfew
    · by_cases hyes : host.answer w.question = .yes
      · exact unhide_of_yes hh hmany hyes ▸ .agreed hh hmany hyes
      · exact unhide_of_no hh hmany hyes ▸ .refused hh hmany hyes

end cases

section pieces

theorem keeps_unhide (w : Workspace) (host : Host) : Keeps w (w.unhide host).state := by
  have hreveal : ∀ nodes edges, Keeps w (w.revealAll host nodes edges).state := by
    intro nodes edges
    rw [state_revealAll]
    exact ⟨rfl, rfl, .inl rfl⟩
  have hending := ending_unhide w host
  generalize w.unhide host = out at hending ⊢
  cases hending with
  | needless hh => exact .refl w
  | unasked hh hfew => exact hreveal _ _
  | agreed hh hmany hyes => exact hreveal _ _
  | refused hh hmany hno =>
    rw [state_setBrowsing]
    exact ⟨rfl, rfl, .inr rfl⟩

theorem asked_revealAll (w : Workspace) (host : Host) (nodes edges : Nat) :
    asked (w.revealAll host nodes edges).notices = [] := by
  unfold revealAll
  dsimp only
  split
  · rfl
  · split <;> rfl

theorem laidOut_revealAll (w : Workspace) (host : Host) (nodes edges : Nat) :
    laidOut (w.revealAll host nodes edges).notices =
      if w.settings.automaticLayout then [(w.revealAll host nodes edges).state.hasHiddenNodes]
      else [] := by
  unfold revealAll
  cases w.settings.automaticLayout with
  | false => rfl
  | true =>
    dsimp only
    split
    · contradiction
    · split <;> rfl

theorem delivered_revealAll (w : Workspace) (host : Host) (nodes edges : Nat) :
    delivered (w.revealAll host nodes edges).notices =
      Event.visibility ++ [.markersChanged, .visibilitySettled] := by
  unfold revealAll
  dsimp only
  split
  · rfl
  · split <;> rfl

theorem redrawn_revealAll (w : Workspace) (host : Host) (nodes edges : Nat) :
    redrawn (w.revealAll host nodes edges).notices = View.all.map (·, .full) ++
      if w.settings.automaticLayout = true ∧
          host.layout (w.revealAll host nodes edges).state = none then
        View.all.map (·, .full)
      else [] := by
  rw [state_revealAll]
  unfold revealAll
  cases w.settings.automaticLayout with
  | false => simp
  | true =>
    dsimp only
    split
    · contradiction
    · split
      · rename_i reason hreason
        rw [if_neg (by simp [hreason])]
        rfl
      · rename_i hnone
        rw [if_pos ⟨rfl, hnone⟩]
        rfl

theorem result_revealAll (w : Workspace) (host : Host) (nodes edges : Nat) :
    (w.revealAll host nodes edges).result =
      match if w.settings.automaticLayout then host.layout (w.revealAll host nodes edges).state
        else none with
      | some reason => .error (.layout reason)
      | none => .ok (.revealed nodes edges) := by
  rw [state_revealAll]
  unfold revealAll
  cases w.settings.automaticLayout with
  | false => rfl
  | true =>
    dsimp only
    split
    · contradiction
    · split <;> simp_all

/-- Making everything visible never answers that nothing was hidden, or that it was declined. -/
theorem revealAll_result_ne (w : Workspace) (host : Host) (nodes edges : Nat) :
    (w.revealAll host nodes edges).result ≠ .ok .nothingHidden ∧
      (w.revealAll host nodes edges).result ≠ .ok .declined := by
  rw [result_revealAll]
  split <;> simp

theorem result_unhide_eq_nothingHidden :
    (w.unhide host).result = .ok .nothingHidden ↔ w.hasHiddenNodes = false := by
  have hending := ending_unhide w host
  generalize w.unhide host = out at hending ⊢
  cases hending with
  | needless hh => exact iff_of_true rfl hh
  | unasked hh hfew => exact iff_of_false (revealAll_result_ne w host _ _).1 (by simp [hh])
  | agreed hh hmany hyes => exact iff_of_false (revealAll_result_ne w host _ _).1 (by simp [hh])
  | refused hh hmany hno => exact iff_of_false nofun (by simp [hh])

/-- Only the layout engine can make it fail to end browsing. -/
theorem layoutFails_of_unhide {f : Failure} (h : (w.unhide host).result = .error f) :
    host.LayoutFails f := by
  have hreveal : ∀ nodes edges, (w.revealAll host nodes edges).result = .error f →
      host.LayoutFails f := by
    intro nodes edges herror
    rw [result_revealAll] at herror
    split at herror
    · rename_i reason hreason
      cases ha : w.settings.automaticLayout with
      | false => simp [ha] at hreason
      | true =>
        simp only [ha, if_true] at hreason
        exact ⟨_, reason, hreason, (Except.error.inj herror).symm⟩
    · cases herror
  have hending := ending_unhide w host
  generalize w.unhide host = out at hending h
  cases hending with
  | needless hh => cases h
  | unasked hh hfew => exact hreveal _ _ h
  | agreed hh hmany hyes => exact hreveal _ _ h
  | refused hh hmany hno => cases h

theorem notices_setBrowsing (w : Workspace) :
    (w.setBrowsing true).notices =
      if w.settings.browsing.enabled then []
      else [.event (.settingsChanged .proximityBrowsing)] := by
  unfold setBrowsing
  split <;> simp_all [Outcome.still]

/-- A question is asked where a node is hidden and enough edges are. -/
theorem asked_unhide (w : Workspace) (host : Host) :
    asked (w.unhide host).notices =
      if w.hasHiddenNodes = true ∧
          w.settings.warningThreshold.toNat ≤ w.layers.combined.hiddenCount .edge then
        [w.question]
      else [] := by
  have hending := ending_unhide w host
  generalize w.unhide host = out at hending ⊢
  cases hending with
  | needless hh => simp [hh, Outcome.still, asked]
  | unasked hh hfew => rw [asked_revealAll, if_neg (by simp [Nat.not_le.mpr hfew])]
  | agreed hh hmany hyes =>
    rw [if_pos ⟨hh, hmany⟩]
    exact congrArg (w.question :: ·) (asked_revealAll w host _ _)
  | refused hh hmany hno =>
    rw [if_pos ⟨hh, hmany⟩, notices_setBrowsing]
    split <;> rfl

theorem declined_setBrowsing (w : Workspace) :
    Declined w ⟨(w.setBrowsing true).state,
      .question w.question :: (w.setBrowsing true).notices, .ok .declined⟩ where
  result_eq := rfl
  state_eq := state_setBrowsing w true
  delivered_eq := by
    rw [notices_setBrowsing]
    split <;> rfl
  redrawn_eq := by
    rw [notices_setBrowsing]
    split <;> rfl
  laidOut_eq := by
    rw [notices_setBrowsing]
    split <;> rfl

/-- Making everything visible, behind the questions that were asked about it. -/
theorem revealed_revealAll (hc : o.Coherent) (h : Coupled o w) (host : Host)
    (questions : List String) :
    let out := w.revealAll host (w.layers.combined.hiddenCount .node)
      (w.layers.combined.hiddenCount .edge)
    Revealed w host { out with notices := questions.map .question ++ out.notices } := by
  intro out
  have hstate : out.state = { w with layers := w.layers.reveal w.overlay, markers := .none } :=
    state_revealAll w host _ _
  obtain ⟨rfl, hd⟩ := h
  have hvisible : Layers.FullyVisible w.overlay out.state.layers := by
    rw [hstate]
    exact Layers.fullyVisible_reveal hc hd.sized
  have hcoupled : Coupled w.overlay out.state := by
    rw [hstate]
    exact ⟨rfl, Layers.derived_reveal hc hd⟩
  have hnone : out.state.hasHiddenNodes = false := by
    rw [hasHiddenNodes_eq_false hcoupled]
    intro s u hu
    exact hvisible s.view (.node u) hu
  constructor
  · rw [hstate]
  · exact hvisible
  · rw [hstate]
    exact Markers.get_none
  · rw [hstate]
  · rw [hstate]
  · exact (filterMap_questions _ (fun _ => rfl) questions).trans (delivered_revealAll w host _ _)
  · exact (filterMap_questions _ (fun _ => rfl) questions).trans (redrawn_revealAll w host _ _)
  · refine (filterMap_questions _ (fun _ => rfl) questions).trans ?_
    rw [← hnone]
    exact laidOut_revealAll w host _ _
  · exact result_revealAll w host _ _

end pieces

theorem endsBrowsing_unhide (hc : o.Coherent) (h : Coupled o w) (host : Host) :
    EndsBrowsing w host (w.unhide host) := by
  have hanswer : (w.unhide host).result = .ok .nothingHidden ↔
      ∀ s : Side, ∀ u < w.overlay.nodeCount s.view,
        (w.layers.get s.view).get (.node u) = true := by
    rw [result_unhide_eq_nothingHidden, h.overlay_eq]
    exact hasHiddenNodes_eq_false h
  have hasked : (w.unhide host).result ≠ .ok .nothingHidden → asked (w.unhide host).notices =
      if w.settings.warningThreshold.toNat ≤ w.layers.combined.hiddenCount .edge then [w.question]
      else [] := by
    rw [Ne, result_unhide_eq_nothingHidden, Bool.not_eq_false, asked_unhide]
    intro hh
    simp only [hh, true_and]
  have hending := ending_unhide w host
  generalize w.unhide host = out at hending hanswer hasked ⊢
  refine ⟨hanswer, ?_, hasked, ?_, ?_⟩
  · intro heq
    cases hending with
    | needless hh => exact ⟨rfl, rfl⟩
    | unasked hh hfew => exact absurd heq (revealAll_result_ne w host _ _).1
    | agreed hh hmany hyes => exact absurd heq (revealAll_result_ne w host _ _).1
    | refused hh hmany hno => cases heq
  · intro hne hno
    cases hending with
    | needless hh => exact absurd rfl hne
    | unasked hh hfew => exact absurd (asked_revealAll w host _ _) hne
    | agreed hh hmany hyes => exact absurd hyes hno
    | refused hh hmany hno => exact declined_setBrowsing w
  · intro hne hagreed
    cases hending with
    | needless hh => exact absurd rfl hne
    | unasked hh hfew => exact revealed_revealAll hc h host []
    | agreed hh hmany hyes => exact revealed_revealAll hc h host [w.question]
    | refused hh hmany hno =>
      rcases hagreed with hnone | hyes
      · cases hnone
      · exact absurd hyes hno

/-- Whatever is answered and however the layout goes, ending to browse keeps to its protocol. -/
theorem endsBrowsing_reachable (hw : Reachable c w) (host : Host) :
    EndsBrowsing w host (w.unhide host) := by
  obtain ⟨o, _, hc, h⟩ := exists_coupled hw
  exact endsBrowsing_unhide hc h host

theorem endsBrowsing_sample : ∃ w, Reachable .sample w ∧ w.hasHiddenNodes = true ∧
    w.settings.warningThreshold.toNat ≤ w.layers.combined.hiddenCount .edge ∧
    let dismissing : Host := ⟨fun _ => .dismissed, fun _ => some "no room"⟩
    let agreeing : Host := ⟨fun _ => .yes, fun _ => none⟩
    (w.unhide dismissing).result = .ok .declined ∧
      EndsBrowsing w dismissing (w.unhide dismissing) ∧
      (w.unhide agreeing).result = .ok (.revealed 1 1) ∧
      EndsBrowsing w agreeing (w.unhide agreeing) := by
  obtain ⟨w, hw, hhidden⟩ := exists_sample_run { warningThreshold := 1 }
    [.setVisible .primary (.node 2) false, .setVisible .primary (.edge 1) false]
    (p := fun w => w.hasHiddenNodes = true ∧
      w.settings.warningThreshold.toNat ≤ w.layers.combined.hiddenCount .edge ∧
      ((w.unhide ⟨fun _ => .dismissed, fun _ => some "no room"⟩).result.toOption.any
        fun answer => answer = .declined) ∧
      ((w.unhide ⟨fun _ => .yes, fun _ => none⟩).result.toOption.any
        fun answer => answer = .revealed 1 1)) (by decide +kernel)
  obtain ⟨hnode, hedge, hdeclined, hrevealed⟩ := of_decide_eq_true hhidden
  obtain ⟨answer, hdeclined, hanswer⟩ := exists_ok_of_any hdeclined
  obtain rfl := of_decide_eq_true hanswer
  obtain ⟨answer, hrevealed, hanswer⟩ := exists_ok_of_any hrevealed
  obtain rfl := of_decide_eq_true hanswer
  exact ⟨w, hw, hnode, hedge, hdeclined, endsBrowsing_reachable hw _, hrevealed,
    endsBrowsing_reachable hw _⟩

/-- Where a node was hidden, only a refusal keeps anything hidden. -/
theorem revealed_unhide (hc : o.Coherent) (h : Coupled o w) (hh : w.hasHiddenNodes = true)
    (hne : (w.unhide host).result ≠ .ok .declined) : Revealed w host (w.unhide host) := by
  have hends := endsBrowsing_unhide hc h host
  apply hends.revealed
  · rw [Ne, result_unhide_eq_nothingHidden, hh]
    exact Bool.noConfusion
  · by_contra hasked
    rw [not_or] at hasked
    exact hne (hends.declined hasked.1 hasked.2).result_eq

/-- Nothing is hidden after ending to browse unless that was declined, and it answers that nothing
was hidden only if that is so. -/
def LeavesNothingHidden (w : Workspace) (host : Host) : Prop :=
  ((w.unhide host).result ≠ .ok .declined →
    Layers.FullyVisible w.overlay (w.unhide host).state.layers ∧
      ∀ v, (w.unhide host).state.markers.get v = []) ∧
  ((w.unhide host).result = .ok .nothingHidden → Layers.FullyVisible w.overlay w.layers)

theorem leavesNothingHidden_of_hidden (hc : o.Coherent) (h : Coupled o w)
    (hh : w.hasHiddenNodes = true) : LeavesNothingHidden w host := by
  constructor
  · intro hne
    have hrevealed := revealed_unhide hc h hh hne
    exact ⟨hrevealed.visible, hrevealed.unmarked⟩
  · rw [result_unhide_eq_nothingHidden, hh]
    exact nofun

/-- Where no node is hidden nothing is done, so all depends on what was hidden before. -/
theorem leavesNothingHidden_of_visible (hc : o.Coherent) (h : Coupled o w) (hf : Fresh w)
    (hh : w.hasHiddenNodes = false) :
    LeavesNothingHidden w host ↔ Layers.FullyVisible w.overlay w.layers := by
  rw [LeavesNothingHidden, unhide_of_visible hh]
  constructor
  · rintro ⟨_, hall⟩
    exact hall rfl
  · intro hall
    have hmarkers := markersExact_of_fresh hc h hf
    have hnone := hmarkers.absent_of_visible fun s u hu => hall s.view (.node u) hu
    exact ⟨fun _ => ⟨hall, hnone⟩, fun _ => hall⟩

/-- Ending to browse leaves nothing hidden just when, before, some side hid a node or no side hid
an edge. -/
theorem leavesNothingHidden_iff (hw : Reachable c w) (host : Host) :
    LeavesNothingHidden w host ↔
      (∃ s : Side, ∃ u < w.overlay.nodeCount s.view,
        (w.layers.get s.view).get (.node u) = false) ∨
      ∀ s : Side, ∀ u < w.overlay.edgeCount s.view,
        (w.layers.get s.view).get (.edge u) = true := by
  obtain ⟨o, _, hc, h⟩ := exists_coupled hw
  obtain rfl := h.overlay_eq
  have hnodes := hasHiddenNodes_eq_false h
  cases hh : w.hasHiddenNodes with
  | true =>
    refine iff_of_true (leavesNothingHidden_of_hidden hc h hh) (Or.inl ?_)
    by_contra hall
    push Not at hall
    have hvisible := hnodes.mpr fun s u hu => by simpa using hall s u hu
    rw [hh] at hvisible
    cases hvisible
  | false =>
    have hvisible := hnodes.mp hh
    rw [leavesNothingHidden_of_visible hc h (fresh_reachable hw) hh,
      Layers.fullyVisible_iff hc h.derived]
    constructor
    · rintro ⟨_, hedges⟩
      exact Or.inr hedges
    · rintro (⟨s, u, hu, hfalse⟩ | hedges)
      · have htrue := hvisible s u hu
        rw [hfalse] at htrue
        cases htrue
      · exact ⟨hvisible, hedges⟩

theorem leavesNothingHidden_sample : ∃ w, Reachable .sample w ∧
    (∃ u < w.overlay.nodeCount .secondary, (w.layers.get .secondary).get (.node u) = false) ∧
    LeavesNothingHidden w ⟨fun _ => .yes, fun _ => some "no room"⟩ := by
  obtain ⟨w, hw, hhidden⟩ := exists_sample_run {}
    [.setVisible .secondary (.edge 1) false, .setVisible .secondary (.node 1) false]
    (p := fun w => 1 < w.overlay.nodeCount .secondary ∧
      (w.layers.get .secondary).get (.node 1) = false) (by decide +kernel)
  obtain ⟨hlt, hnode⟩ := of_decide_eq_true hhidden
  exact ⟨w, hw, ⟨1, hlt, hnode⟩,
    (leavesNothingHidden_iff hw _).mpr (Or.inl ⟨.secondary, 1, hlt, hnode⟩)⟩

/-- An edge that was hidden by itself stays hidden, and the answer is that nothing was. -/
theorem edge_stays_hidden : ∃ w, Reachable .sample w ∧
    (w.unhide ⟨fun _ => .yes, fun _ => none⟩).result = .ok .nothingHidden ∧
    ¬ LeavesNothingHidden w ⟨fun _ => .yes, fun _ => none⟩ := by
  obtain ⟨w, hw, hhidden⟩ := exists_sample_run {} [.setVisible .primary (.edge 2) false]
    (p := fun w => w.hasHiddenNodes = false ∧ 2 < w.overlay.edgeCount .primary ∧
      (w.layers.get .primary).get (.edge 2) = false) (by decide +kernel)
  obtain ⟨hh, hlt, hedge⟩ := of_decide_eq_true hhidden
  have hanswer : (w.unhide ⟨fun _ => .yes, fun _ => none⟩).result = .ok .nothingHidden :=
    result_unhide_eq_nothingHidden.mpr hh
  refine ⟨w, hw, hanswer, ?_⟩
  rintro ⟨_, hfully⟩
  have hvisible : (w.layers.get .primary).get (.edge 2) = true :=
    hfully hanswer .primary (.edge 2) hlt
  rw [hedge] at hvisible
  cases hvisible

end Workspace

end GraphCompare
