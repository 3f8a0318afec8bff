import GraphCompare.Proofs.Window.Repainting

/-! Cameras only move when they are meant to. A call has a set of views that it may move; of all
other views it leaves the whole surface alone, and of those it leaves all but the camera. -/
namespace GraphCompare

namespace Surface
variable {α : Type} {f g h : Surface α}

/-- A surface that may have another camera and is the same in all else. -/
def SameButCamera (f g : Surface α) : Prop :=
  ∃ world zoom origin, g = f.withCamera world zoom origin

theorem SameButCamera.refl (f : Surface α) : f.SameButCamera f :=
  ⟨f.viewport.world, f.viewport.zoom, f.viewport.origin, rfl⟩

theorem SameButCamera.trans (hfg : f.SameButCamera g) (hgh : g.SameButCamera h) :
    f.SameButCamera h := by
  obtain ⟨_, _, _, rfl⟩ := hfg
  obtain ⟨world, zoom, origin, rfl⟩ := hgh
  exact ⟨world, zoom, origin, rfl⟩

theorem sameButCamera_withCamera (f : Surface α) (world : Rect α) (zoom : α) (origin : Point α) :
    f.SameButCamera (f.withCamera world zoom origin) :=
  ⟨world, zoom, origin, rfl⟩

/-- A camera for the same canvas is no other change. -/
theorem sameButCamera_of_size {camera : Viewport α} (h : camera.size = f.viewport.size) :
    f.SameButCamera { f with viewport := camera } := by
  refine ⟨camera.world, camera.zoom, camera.origin, ?_⟩
  rw [withCamera, ← h]

theorem sameButCamera_withCenter [Scalar α] (f : Surface α) (c : Point α) :
    f.SameButCamera (f.withCenter c) :=
  f.sameButCamera_withCamera _ _ _

theorem sameButCamera_zoomedTo [Scalar α] (f : Surface α) (zoom : α) :
    f.SameButCamera (f.zoomedTo zoom) := by
  unfold zoomedTo
  split
  · exact .refl f
  · exact f.sameButCamera_withCamera _ _ _

theorem sameButCamera_shifted [Scalar α] (f : Surface α) (d : Vec α) :
    f.SameButCamera (f.shifted d) :=
  f.sameButCamera_withCamera _ _ _

end Surface

/-- The views that move with a view: itself, and those that follow it if it is a side. -/
def Coupling.MovesWith {α : Type} (k : Coupling α) (v u : View) : Prop :=
  u = v ∨ ∃ s : Side, v = s.view ∧ k.follows s = true ∧ (u = s.other.view ∨ u = .super)

/-- The views whose cameras are coupled. -/
def Coupling.Includes {α : Type} (k : Coupling α) (v : View) : Prop :=
  k.synchronized = true ∧ v ≠ .combined

theorem Coupling.includes_side {α : Type} {k : Coupling α} (hk : k.synchronized = true)
    (s : Side) : k.Includes s.view :=
  ⟨hk, by cases s <;> decide⟩

theorem Coupling.includes_movesWith {α : Type} {k : Coupling α} {s : Side} {v : View}
    (hk : k.synchronized = true) (h : k.MovesWith s.view v) : k.Includes v := by
  refine ⟨hk, ?_⟩
  rintro rfl
  rcases h with h | ⟨t, _, _, h | h⟩
  · cases s <;> cases h
  · cases t <;> cases h
  · cases h

namespace Surfaces
variable {α : Type} {fs gs hs : Surfaces α} {views views' : View → Prop}

/-- No more than the cameras of some views has changed. -/
structure MovesOnly (views : View → Prop) (fs gs : Surfaces α) : Prop where
  same : ∀ v, (fs.get v).SameButCamera (gs.get v)
  still : ∀ v, ¬ views v → gs.get v = fs.get v

section combinators

theorem MovesOnly.refl (views : View → Prop) (fs : Surfaces α) : MovesOnly views fs fs :=
  ⟨fun v => .refl (fs.get v), fun _ _ => rfl⟩

theorem MovesOnly.trans (h : MovesOnly views fs gs) (h' : MovesOnly views gs hs) :
    MovesOnly views fs hs where
  same v := (h.same v).trans (h'.same v)
  still v hv := (h'.still v hv).trans (h.still v hv)

theorem MovesOnly.mono (h : MovesOnly views fs gs) (hle : ∀ v, views v → views' v) :
    MovesOnly views' fs gs :=
  ⟨h.same, fun v hv => h.still v (mt (hle v) hv)⟩

theorem MovesOnly.size_eq (h : MovesOnly views fs gs) (v : View) :
    (gs.get v).viewport.size = (fs.get v).viewport.size := by
  obtain ⟨_, _, _, heq⟩ := h.same v
  rw [heq, Surface.size_withCamera]

theorem MovesOnly.content_eq (h : MovesOnly views fs gs) (v : View) :
    (gs.get v).content = (fs.get v).content := by
  obtain ⟨_, _, _, heq⟩ := h.same v
  rw [heq, Surface.content_withCamera]

theorem movesOnly_modify (fs : Surfaces α) {v : View} (hv : views v) {f : Surface α → Surface α}
    (hf : ∀ g : Surface α, g.SameButCamera (f g)) : MovesOnly views fs (fs.modify v f) where
  same u := by
    rw [PerView.get_modify]
    split
    · exact hf _
    · exact .refl _
  still u hu := by
    rw [PerView.get_modify, if_neg]
    rintro rfl
    exact hu hv

end combinators

/-- Both that follow a side get another camera, in one way. -/
theorem movesOnly_followers {k : Coupling α} (fs : Surfaces α) {s : Side} (h : k.follows s = true)
    {f : Surface α → Surface α} (hf : ∀ g : Surface α, g.SameButCamera (f g)) :
    MovesOnly (k.MovesWith s.view) fs ((fs.modify s.other.view f).modify .super f) := by
  have hother : k.MovesWith s.view s.other.view := .inr ⟨s, rfl, h, .inl rfl⟩
  have hsuper : k.MovesWith s.view .super := .inr ⟨s, rfl, h, .inr rfl⟩
  exact (movesOnly_modify fs hother hf).trans (movesOnly_modify _ hsuper hf)

section calls
variable [Scalar α] (k : Coupling α) (fs : Surfaces α)

theorem movesOnly_adoptZoom (s : Side) :
    MovesOnly (k.MovesWith s.view) fs (fs.adoptZoom k s).2 := by
  unfold adoptZoom
  split
  · exact .refl _ fs
  · rename_i hfollows
    exact fs.movesOnly_followers (by simpa using hfollows) fun g => g.sameButCamera_zoomedTo _

theorem movesOnly_adoptViewPoint (s : Side) (previous : Point α) :
    MovesOnly (k.MovesWith s.view) fs (fs.adoptViewPoint k s previous).2 := by
  unfold adoptViewPoint
  split
  · exact .refl _ fs
  · rename_i hfollows
    dsimp only
    split
    · exact .refl _ fs
    · exact fs.movesOnly_followers (by simpa using hfollows) fun g => g.sameButCamera_shifted _

theorem movesOnly_pan (v : View) (d : Vec α) :
    MovesOnly (k.MovesWith v) fs (fs.pan k v d).state := by
  unfold pan
  apply (movesOnly_modify fs (.inl rfl) fun g => g.sameButCamera_withCamera _ _ _).trans
  cases hs : v.side? with
  | none => exact .refl _ _
  | some s =>
    obtain rfl := View.eq_of_side?_some hs
    exact movesOnly_adoptViewPoint k _ s _

theorem movesOnly_setZoom (v : View) (zoom : α) :
    MovesOnly (k.MovesWith v) fs (fs.setZoom k v zoom).state := by
  unfold setZoom
  split
  · exact .refl _ fs
  · apply (movesOnly_modify fs (.inl rfl) fun g =>
      (g.sameButCamera_withCamera _ _ _).trans (Surface.sameButCamera_withCenter _ _)).trans
    cases hs : v.side? with
    | none => exact .refl _ _
    | some s =>
      obtain rfl := View.eq_of_side?_some hs
      exact movesOnly_adoptZoom k _ s

theorem sameButCamera_adopting (s : Side) : (fs.get s.view).SameButCamera (fs.adopting s) :=
  Surface.sameButCamera_of_size (Viewport.size_adopted _ _)

theorem movesOnly_adoptSuper : MovesOnly k.Includes fs (fs.adoptSuper k).2 := by
  cases hk : k.synchronized with
  | false =>
    rw [fs.adoptSuper_of_uncoupled hk]
    exact .refl _ fs
  | true =>
    rw [fs.adoptSuper_of_coupled hk]
    constructor
    · intro v
      cases v with
      | primary => exact fs.sameButCamera_adopting .primary
      | secondary => exact fs.sameButCamera_adopting .secondary
      | combined | super => exact .refl _
    · intro v hv
      cases v with
      | primary => exact absurd (Coupling.includes_side hk .primary) hv
      | secondary => exact absurd (Coupling.includes_side hk .secondary) hv
      | combined | super => rfl

/-- A leader that is fitted gets another zoom and origin. The content it showed for that is gone
again. -/
theorem fitLeader_of_some {fit : Fitter α} {s : Side} (h : (fs.fitLeader k fit).result = some s) :
    k.synchronized = true ∧ ∃ zoom origin, (fs.fitLeader k fit).state =
      fs.modify s.view fun f => f.withCamera f.viewport.world zoom origin := by
  obtain ⟨f, hfits⟩ := exists_fits h
  rw [hfits.fitLeader_eq]
  exact ⟨hfits.synchronized, f.zoom * k.zoomOut, f.origin, rfl⟩

theorem movesOnly_fitLeader (fit : Fitter α) :
    MovesOnly k.Includes fs (fs.fitLeader k fit).state := by
  cases hresult : (fs.fitLeader k fit).result with
  | none =>
    rw [fs.fitLeader_of_none k hresult]
    exact .refl _ fs
  | some s =>
    obtain ⟨hk, zoom, origin, hstate⟩ := fs.fitLeader_of_some k hresult
    rw [hstate]
    exact movesOnly_modify fs (Coupling.includes_side hk s) fun g =>
      g.sameButCamera_withCamera _ _ _

theorem movesOnly_fitToContent (fit : Fitter α) :
    MovesOnly k.Includes fs (fs.fitToContent k fit).state := by
  have hfit := fs.movesOnly_fitLeader k fit
  unfold fitToContent
  dsimp only
  split
  · exact hfit
  · rename_i s hs
    obtain ⟨hk, _⟩ := fs.fitLeader_of_some k hs
    have hle : ∀ v, k.MovesWith s.view v → k.Includes v := fun v => Coupling.includes_movesWith hk
    exact hfit.trans (((movesOnly_adoptZoom k _ s).mono hle).trans
      ((movesOnly_adoptViewPoint k _ s _).mono hle))

end calls

end Surfaces

namespace Window
variable {w : Window} {host : Host} {v : View} {call : Call} {views : View → Prop}

/-- The view that a call is about, for calls that are about one. -/
def Call.view? : Call → Option View
  | .handlePointer v _ => some v
  | .pan v _ => some v
  | .setZoom v _ => some v
  | _ => none

/-- A call of the window's own, other than the caller's bringing in surfaces. -/
def Call.IsOwn (call : Call) : Prop := ∀ fs, call ≠ .resurface fs

/-- The views whose cameras a call may move. -/
def Call.MayMove (w : Window) (call : Call) (v : View) : Prop :=
  match call.view? with
  | some u => w.coupling.MovesWith u v
  | none => (w.after call).coupling.Includes v

section pointer

theorem surfaces_selectNode (w : Window) (v : View) (i : NodeId) (additive : Bool) :
    (w.selectNode v i additive).state.surfaces = w.surfaces := by
  unfold selectNode
  split
  · rfl
  · dsimp only
    split
    · rfl
    · rw [Outcome.andThen_of_ok rfl]
      dsimp only
      split
      · rw [state_refocus]
        rfl
      · rfl

theorem surfaces_expandMarker (w : Window) (v : View) (i : NodeId) :
    (w.expandMarker v i).state.surfaces = w.surfaces := by
  unfold expandMarker
  split
  · rfl
  · rw [state_redrawn]
    cases w.workspace.reveal _ <;> rfl

/-- Of all commands only a pan moves a camera. -/
theorem movesOnly_execute (w : Window) (v : View) (command : Command Float) :
    w.surfaces.MovesOnly (w.coupling.MovesWith v) (w.execute v command).state.surfaces := by
  cases command with
  | select n additive =>
    cases n with
    | raw i =>
      change w.surfaces.MovesOnly _ (w.selectNode v i additive).state.surfaces
      rw [surfaces_selectNode]
      exact .refl _ _
    | marker i =>
      change w.surfaces.MovesOnly _ (w.expandMarker v i).state.surfaces
      rw [surfaces_expandMarker]
      exact .refl _ _
  | clear => exact .refl _ _
  | pan d => exact w.surfaces.movesOnly_pan w.coupling v d
  | menu hit => exact .refl _ _

theorem movesOnly_handlePointer (w : Window) (v : View) (g : Gesture Float) :
    w.surfaces.MovesOnly (w.coupling.MovesWith v) (w.handlePointer v g).state.surfaces := by
  unfold handlePointer
  split
  · exact .refl _ _
  · rename_i m hm
    obtain ⟨t, m'⟩ := m.handle g (w.hitOf v g)
    dsimp only [Outcome.map]
    cases t.command with
    | none => exact .refl _ _
    | some command =>
      dsimp only
      rw [Outcome.andThen_of_ok rfl]
      exact movesOnly_execute { w with pointers := w.pointers.set v m' } v command

end pointer

theorem surfaces_setBrowsing (w : Window) (enabled : Bool) (host : Host) :
    (w.setBrowsing enabled host).state.surfaces = w.surfaces := by
  unfold setBrowsing
  dsimp only
  split
  · rfl
  · rw [Outcome.andThen_of_ok rfl]
    dsimp only
    rw [state_browsingSwitched]
    rfl

/-- New settings move cameras only where they have just been coupled. -/
theorem movesOnly_updateSettings (w : Window) (overrides : Json) (host : Host) :
    w.surfaces.MovesOnly (w.updateSettings overrides host).state.coupling.Includes
      (w.updateSettings overrides host).state.surfaces := by
  cases ho : w.workspace.settings.override overrides with
  | error f =>
    rw [updateSettings_of_error host ho]
    exact .refl _ _
  | ok change =>
    obtain ⟨changed, t⟩ := change
    rcases updateSettings_cases host ho with ⟨f, _, hstate⟩ | ⟨_, hstate⟩
    · rw [hstate, state_browsingChanged]
      exact .refl _ _
    · rw [hstate, state_browsingChanged, state_couplingChanged]
      dsimp only
      split
      · exact Surfaces.movesOnly_adoptSuper _ w.surfaces
      · exact .refl _ _

theorem movesOnly_perform (w : Window) (h : call.IsOwn) :
    w.surfaces.MovesOnly (call.MayMove w) (w.after call).surfaces := by
  cases call with
  | resurface fs => exact absurd rfl (h fs)
  | handlePointer v g => exact movesOnly_handlePointer w v g
  | pan v d => exact w.surfaces.movesOnly_pan w.coupling v d
  | setZoom v zoom => exact w.surfaces.movesOnly_setZoom w.coupling v zoom
  | adoptSuper => exact w.surfaces.movesOnly_adoptSuper w.coupling
  | fitToContent => exact w.surfaces.movesOnly_fitToContent w.coupling w.fitter
  | unhideAll host => exact .refl _ _
  | setBrowsing enabled host =>
    have hstay : (w.after (.setBrowsing enabled host)).surfaces = w.surfaces :=
      surfaces_setBrowsing w enabled host
    rw [hstay]
    exact .refl _ _
  | updateSettings overrides host => exact movesOnly_updateSettings w overrides host

theorem movesOnly_run (w : Window) {calls : List Call} (h : ∀ call ∈ calls, call.IsOwn)
    (hviews : ∀ before call later, calls = before ++ call :: later →
      ∀ v, call.MayMove (w.run before) v → views v) :
    w.surfaces.MovesOnly views (w.run calls).surfaces := by
  induction calls generalizing w with
  | nil => exact .refl _ _
  | cons call calls ih =>
    have hcall := movesOnly_perform w (h call (by simp))
    have hrest := ih (w.after call) (fun c hc => h c (List.mem_cons_of_mem call hc))
      fun before c later heq => hviews (call :: before) c later (by rw [heq]; rfl)
    exact (hcall.mono (hviews [] call calls rfl)).trans hrest

section reasons

theorem Call.ne_combined_of_mayMove (h : call.MayMove w v) (hview : call.view? ≠ some .combined) :
    v ≠ .combined := by
  unfold MayMove at h
  split at h
  · rename_i u hu
    rcases h with rfl | ⟨s, _, _, rfl | rfl⟩
    · rintro rfl
      exact hview hu
    · cases s <;> decide
    · decide
  · exact h.2

/-- What moves though the call is not about it follows by the setting. -/
theorem Call.synchronized_of_mayMove (h : call.MayMove w v) (hview : call.view? ≠ some v) :
    w.workspace.settings.synchronizedViews = true ∨
      (w.after call).workspace.settings.synchronizedViews = true := by
  unfold MayMove at h
  split at h
  · rename_i u hu
    rcases h with rfl | ⟨s, _, hfollows, _⟩
    · exact absurd hu hview
    · simp only [Coupling.follows, Bool.and_eq_true] at hfollows
      exact .inl hfollows.1
  · exact .inr h.1

/-- Nothing follows a side without a function. -/
theorem Call.eq_of_mayMove {s : Side} (h : call.MayMove w v) (hview : call.view? = some s.view)
    (hlacks : w.workspace.overlay.lacksFunction s = true) : v = s.view := by
  unfold MayMove at h
  rw [hview] at h
  rcases h with rfl | ⟨t, hst, hfollows, _⟩
  · rfl
  · obtain rfl : s = t := by simpa using congrArg View.side? hst
    have hhas : w.workspace.overlay.lacksFunction s = false := by
      simp only [Coupling.follows, Bool.and_eq_true, Bool.not_eq_true'] at hfollows
      exact hfollows.2
    rw [hlacks] at hhas
    cases hhas

end reasons

/-- What a call keeps of the surfaces. -/
structure KeepsCameras (w : Window) (call : Call) : Prop where
  size_eq : ∀ v, ((w.after call).surfaces.get v).viewport.size = (w.surfaces.get v).viewport.size
  /-- Also of a surface that has shown other content to be fitted. -/
  content_eq : ∀ v, ((w.after call).surfaces.get v).content = (w.surfaces.get v).content
  combined_eq : call.view? ≠ some .combined →
    (w.after call).surfaces.combined = w.surfaces.combined
  /-- With cameras that are not coupled a call moves no more than the view that it is about. -/
  uncoupled : w.workspace.settings.synchronizedViews = false →
    (w.after call).workspace.settings.synchronizedViews = false →
    ∀ v, call.view? ≠ some v → (w.after call).surfaces.get v = w.surfaces.get v
  /-- Nor does one that is about a side without a function, whether cameras are coupled or not. -/
  lacking : ∀ s : Side, call.view? = some s.view → w.workspace.overlay.lacksFunction s = true →
    ∀ v, v ≠ s.view → (w.after call).surfaces.get v = w.surfaces.get v
  unfitted : call = .fitToContent → w.fitToContent.result = none →
    (w.after call).surfaces = w.surfaces

/-- What a run keeps of the surfaces, call by call and as a whole. -/
structure KeepsCamerasAlong (w : Window) (calls : List Call) : Prop where
  each : ∀ before call later, calls = before ++ call :: later → call.IsOwn →
    KeepsCameras (w.run before) call
  /-- As long as the caller brings in no surfaces, they stay as they are but for their cameras. -/
  same : (∀ call ∈ calls, call.IsOwn) →
    ∀ v, (w.surfaces.get v).SameButCamera ((w.run calls).surfaces.get v)
  combined_eq : (∀ call ∈ calls, call.IsOwn) → (∀ call ∈ calls, call.view? ≠ some .combined) →
    (w.run calls).surfaces.combined = w.surfaces.combined

theorem surfaces_of_unfitted (h : w.fitToContent.result = none) :
    (w.after .fitToContent).surfaces = w.surfaces := by
  change (w.surfaces.fitToContent w.coupling w.fitter).result = none at h
  change (w.surfaces.fitToContent w.coupling w.fitter).state = w.surfaces
  unfold Surfaces.fitToContent at h ⊢
  dsimp only at h ⊢
  split at h
  · rename_i hnone
    exact w.surfaces.fitLeader_of_none w.coupling hnone
  · cases h

theorem keepsCameras_of_isOwn (w : Window) (h : call.IsOwn) : KeepsCameras w call where
  size_eq := (movesOnly_perform w h).size_eq
  content_eq := (movesOnly_perform w h).content_eq
  combined_eq hview := (movesOnly_perform w h).still .combined
    fun hmove => Call.ne_combined_of_mayMove hmove hview rfl
  uncoupled hbefore hafter v hview := by
    apply (movesOnly_perform w h).still
    intro hmove
    rcases Call.synchronized_of_mayMove hmove hview with hon | hon
    · rw [hbefore] at hon
      cases hon
    · rw [hafter] at hon
      cases hon
  lacking s hview hlacks v hne := (movesOnly_perform w h).still v
    fun hmove => hne (Call.eq_of_mayMove hmove hview hlacks)
  unfitted hcall hnone := by
    subst hcall
    exact surfaces_of_unfitted hnone

/-- Cameras only move when they are meant to, whatever a window has been through. -/
theorem keepsCamerasAlong_run (w : Window) (calls : List Call) : KeepsCamerasAlong w calls where
  each before call _ _ hown := keepsCameras_of_isOwn (w.run before) hown
  same hown := by
    have hmoves : w.surfaces.MovesOnly (fun _ => True) (w.run calls).surfaces :=
      movesOnly_run w hown fun _ _ _ _ _ _ => trivial
    exact hmoves.same
  combined_eq hown hview := by
    have hmoves : w.surfaces.MovesOnly (· ≠ .combined) (w.run calls).surfaces := by
      apply movesOnly_run w hown
      intro before call later heq v hmove
      exact Call.ne_combined_of_mayMove hmove (hview call (by simp [heq]))
    exact hmoves.still .combined fun hne => hne rfl

theorem exists_opened (text : String) (settings : Settings) (fs : Surfaces Float)
    {p : Window → Bool} (h : (ofText text settings fs).toOption.any p = true) :
    ∃ w, Reachable w ∧ p w = true := by
  obtain ⟨w, hopen, hp⟩ := exists_ok_of_any h
  exact ⟨w, ⟨text, settings, fs, w, [], hopen, rfl⟩, hp⟩

/-- A function that is compared with nothing. -/
def loneText : String := "[\"flowGraph\",[null,null,1,[[1]]],[null,null,null,[]],[]]"

def panSecondary : Call := .pan .secondary ⟨10, 0⟩

/-- A pan of the side without the function moves that side alone, though cameras are coupled, and
where there is nothing to show nothing is fitted. -/
theorem keepsCamerasAlong_sample : ∃ w, Reachable w ∧
    w.workspace.settings.synchronizedViews = true ∧
    w.workspace.overlay.lacksFunction .secondary = true ∧
    w.fitToContent.result = none ∧ (w.after .fitToContent).surfaces = w.surfaces ∧
    (w.after panSecondary).surfaces.secondary ≠ w.surfaces.secondary ∧
    (w.after panSecondary).surfaces.primary = w.surfaces.primary := by
  obtain ⟨w, hw, hrun⟩ := exists_opened loneText {} (sampleSurfaces 2 none) (p := fun w =>
      w.workspace.settings.synchronizedViews = true ∧
      w.workspace.overlay.lacksFunction .secondary = true ∧ w.fitToContent.result = none ∧
      (w.after panSecondary).surfaces.secondary.viewport.origin.x ≠
        w.surfaces.secondary.viewport.origin.x) (by decide +kernel)
  obtain ⟨hon, hlacks, hnone, hmoved⟩ := of_decide_eq_true hrun
  have hfit := (keepsCamerasAlong_run w [.fitToContent]).each [] _ [] rfl (by simp [Call.IsOwn])
  have hpan := (keepsCamerasAlong_run w [panSecondary]).each [] _ [] rfl
    (by simp [Call.IsOwn, panSecondary])
  exact ⟨w, hw, hon, hlacks, hnone, hfit.unfitted rfl hnone,
    fun heq => hmoved (by rw [heq]), hpan.lacking .secondary rfl hlacks .primary (by decide)⟩

end Window

end GraphCompare
