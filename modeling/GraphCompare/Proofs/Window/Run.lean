import GraphCompare.Window.Input
import GraphCompare.Proofs.Settings.Difference
import GraphCompare.Proofs.Workspace.Selecting

/-! Runs of a window. Whatever its surfaces say is hit, only identities that exist come to be
selected. So pointer input never fails, and other calls fail only for an override or a layout. -/
namespace GraphCompare
variable {c : Comparison} {ws : Workspace} {w : Window} {host : Host} {v : View} {i : NodeId}
  {additive : Bool} {f : Failure} {allowed : Failure → Prop} {α β : Type}

namespace Outcome
variable {σ : Type} {out : Outcome σ (Except Failure α)}
  {next : σ → α → Outcome σ (Except Failure β)} {a : α}

theorem andThen_of_error (h : out.result = .error f) :
    out.andThen next = ⟨out.state, out.notices, .error f⟩ := by
  unfold andThen
  rw [h]

theorem andThen_of_ok (h : out.result = .ok a) :
    out.andThen next = ⟨(next out.state a).state, out.notices ++ (next out.state a).notices,
      (next out.state a).result⟩ := by
  unfold andThen
  rw [h]

end Outcome

namespace Window
open Workspace (Sound)

/-- What can happen to a window from outside. A call that may have to ask brings along whom. -/
inductive Call
  /-- The surfaces are the caller's, who may bring any others from one call to the next. -/
  | resurface (fs : Surfaces Float)
  | handlePointer (v : View) (g : Gesture Float)
  | pan (v : View) (d : Vec Float)
  | setZoom (v : View) (zoom : Float)
  | adoptSuper
  | fitToContent
  | unhideAll (host : Host)
  | setBrowsing (enabled : Bool) (host : Host)
  | updateSettings (overrides : Json) (host : Host)

def perform (w : Window) : Call → Outcome Window (Except Failure Unit)
  | .resurface fs => .still { w with surfaces := fs } (.ok ())
  | .handlePointer v g => (w.handlePointer v g).map fun r => r.map fun _ => ()
  | .pan v d => (w.pan v d).map .ok
  | .setZoom v zoom => (w.setZoom v zoom).map .ok
  | .adoptSuper => w.adoptSuper.map fun _ => .ok ()
  | .fitToContent => w.fitToContent.map fun _ => .ok ()
  | .unhideAll host => (w.unhideAll host).map fun r => r.map fun _ => ()
  | .setBrowsing enabled host => (w.setBrowsing enabled host).map fun r => r.map fun _ => ()
  | .updateSettings overrides host =>
    (w.updateSettings overrides host).map fun r => r.map fun _ => ()

/-- The window after a call, whether it failed or not. -/
def after (w : Window) (call : Call) : Window := (w.perform call).state

def run (w : Window) (calls : List Call) : Window := calls.foldl after w

/-- A window that was opened on a text and then went through any calls. -/
def Reachable (w : Window) : Prop :=
  ∃ text settings fs w₀ calls, ofText text settings fs = .ok w₀ ∧ w = w₀.run calls

/-- What a call may fail with. -/
def Call.MayFail (w : Window) : Call → Failure → Prop
  | .unhideAll host, f => host.LayoutFails f
  | .setBrowsing _ host, f => host.LayoutFails f
  | .updateSettings overrides host, f =>
    w.workspace.settings.Rejects overrides f ∨ host.LayoutFails f
  | _, _ => False

/-- An outcome that leaves a sound workspace, and fails only with what is allowed. -/
structure Safe (c : Comparison) (allowed : Failure → Prop)
    (out : Outcome Window (Except Failure α)) : Prop where
  sound : Sound c out.state.workspace
  allowed_of_error : ∀ f, out.result = .error f → allowed f

section combinators

theorem safe_still (h : Sound c w.workspace) (a : α) : Safe c allowed (.still w (.ok a)) :=
  ⟨h, nofun⟩

theorem Safe.mono {allowed' : Failure → Prop} {out : Outcome Window (Except Failure α)}
    (h : Safe c allowed out) (hallowed : ∀ f, allowed f → allowed' f) : Safe c allowed' out :=
  ⟨h.sound, fun f hf => hallowed f (h.allowed_of_error f hf)⟩

theorem Safe.map {out : Outcome Window (Except Failure α)} (h : Safe c allowed out) (g : α → β) :
    Safe c allowed (out.map fun r => r.map g) :=
  ⟨h.sound, fun f hf => h.allowed_of_error f (eq_error_of_map hf)⟩

theorem Safe.andThen {out : Outcome Window (Except Failure α)}
    {next : Window → α → Outcome Window (Except Failure β)} (h : Safe c allowed out)
    (hnext : ∀ w a, Sound c w.workspace → Safe c allowed (next w a)) :
    Safe c allowed (out.andThen next) := by
  cases hr : out.result with
  | error f =>
    rw [Outcome.andThen_of_error hr]
    refine ⟨h.sound, fun f' hf => ?_⟩
    cases hf
    exact h.allowed_of_error f hr
  | ok a =>
    rw [Outcome.andThen_of_ok hr]
    have hrest := hnext out.state a h.sound
    exact ⟨hrest.sound, hrest.allowed_of_error⟩

end combinators

theorem safe_attempt {r : Except Failure (Outcome Workspace α)}
    (h : ∃ out, r = .ok out ∧ Sound c out.state) : Safe c allowed (w.attempt r) := by
  obtain ⟨out, rfl, hsound⟩ := h
  exact ⟨hsound, nofun⟩

theorem safe_redrawn {out : Outcome Window (Except Failure Unit)} (h : Safe c allowed out)
    (views : List View) (kind : Redraw) : Safe c allowed (redrawn out views kind) :=
  h.andThen fun _ _ hw => ⟨hw, nofun⟩

theorem safe_refocus (h : Sound c w.workspace) : Safe c allowed w.refocus :=
  safe_redrawn (safe_attempt (Workspace.exists_collapseToSelection h)) _ _

theorem safe_selectNode (h : Sound c w.workspace) : Safe c allowed (w.selectNode v i additive) := by
  unfold selectNode
  split
  · exact safe_still h ()
  · rename_i id hid
    have hlt := h.coupled.1.lt_of_identityIn? hid
    have hselect : Safe c allowed
        ((w.withWorkspace (w.workspace.select id additive)).map fun _ => .ok ()) :=
      ⟨Workspace.sound_select h hlt, nofun⟩
    dsimp only
    split
    · exact hselect
    · apply hselect.andThen
      intro w _ hw
      split
      · exact safe_refocus hw
      · exact ⟨hw, nofun⟩

theorem safe_expandMarker (h : Sound c w.workspace) : Safe c allowed (w.expandMarker v i) := by
  unfold expandMarker
  split
  · exact safe_still h ()
  · rename_i id hid
    have hlt := h.coupled.1.lt_of_identityIn? hid
    exact safe_redrawn (safe_attempt (Workspace.exists_reveal h hlt)) _ _

theorem safe_execute (h : Sound c w.workspace) (command : Command Float) :
    Safe c allowed (w.execute v command) := by
  cases command with
  | select n additive =>
    cases n with
    | raw i => exact safe_selectNode h
    | marker i => exact safe_expandMarker h
  | clear => exact ⟨Workspace.sound_clearSelection h, nofun⟩
  | pan d => exact ⟨h, nofun⟩
  | menu hit => exact safe_still h ()

theorem safe_handlePointer (h : Sound c w.workspace) (g : Gesture Float) :
    Safe c allowed (w.handlePointer v g) := by
  unfold handlePointer
  split
  · exact safe_still h none
  · rename_i m hm
    obtain ⟨t, m'⟩ := m.handle g (w.hitOf v g)
    dsimp only
    -- The machine itself cannot fail, so all is up to the command that comes out of it.
    apply Safe.map
    split
    · exact ⟨h, nofun⟩
    · apply Safe.andThen ⟨h, nofun⟩
      intro w _ hw
      exact safe_execute hw _

theorem safe_unhideAll (h : Sound c w.workspace) : Safe c host.LayoutFails (w.unhideAll host) :=
  ⟨Workspace.sound_unhide h host, fun _ => Workspace.layoutFails_of_unhide⟩

theorem safe_browsingSwitched (h : Sound c w.workspace) :
    Safe c host.LayoutFails (w.browsingSwitched host) := by
  unfold browsingSwitched
  split
  · split
    · exact safe_still h none
    · exact (safe_refocus h).map _
  · exact (safe_unhideAll h).map _

theorem safe_setBrowsing (h : Sound c w.workspace) (enabled : Bool) :
    Safe c host.LayoutFails (w.setBrowsing enabled host) := by
  have hstep := Workspace.sound_setBrowsing h enabled
  unfold setBrowsing
  dsimp only
  split
  · exact ⟨hstep, nofun⟩
  · apply Safe.andThen ⟨hstep, nofun⟩
    intro w _ hw
    exact safe_browsingSwitched hw

theorem safe_browsingChanged (h : Sound c w.workspace) (changed : List SettingKey) :
    Safe c host.LayoutFails (w.browsingChanged changed host) := by
  unfold browsingChanged
  split
  · exact (safe_browsingSwitched h).map _
  · split
    · exact safe_refocus h
    · exact safe_still h ()

theorem safe_couplingChanged (h : Sound c w.workspace) (changed : List SettingKey) :
    Safe c allowed (w.couplingChanged changed) := by
  unfold couplingChanged
  split
  · exact ⟨h, nofun⟩
  · exact safe_still h ()

theorem rejects_of_updateSettings {overrides : Json}
    (h : ws.updateSettings overrides = .error f) : ws.settings.Rejects overrides f := by
  cases ho : ws.settings.override overrides with
  | error e =>
    rw [Workspace.updateSettings_of_error ho] at h
    cases h
    exact Settings.rejects_of_override ho
  | ok change =>
    rw [Workspace.updateSettings_of_ok ho] at h
    cases h

theorem safe_updateSettings (h : Sound c w.workspace) (overrides : Json) :
    Safe c (fun f => w.workspace.settings.Rejects overrides f ∨ host.LayoutFails f)
      (w.updateSettings overrides host) := by
  unfold updateSettings
  split
  · rename_i e he
    refine ⟨h, fun f hf => ?_⟩
    cases hf
    exact .inl (rejects_of_updateSettings he)
  · rename_i out hok
    dsimp only
    -- Once the settings are taken over, only the layout engine is left to fail.
    suffices hsafe : Safe c host.LayoutFails _ from hsafe.mono fun _ => .inr
    apply Safe.andThen ⟨Workspace.sound_updateSettings h hok, nofun⟩
    intro w' changed hw'
    apply (safe_browsingChanged hw' changed).andThen
    intro w'' _ hw''
    exact (safe_couplingChanged hw'' changed).map _

theorem safe_perform (h : Sound c w.workspace) (call : Call) :
    Safe c (call.MayFail w) (w.perform call) := by
  cases call with
  | resurface fs => exact ⟨h, nofun⟩
  | handlePointer v g => exact (safe_handlePointer h g).map _
  | pan v d => exact ⟨h, nofun⟩
  | setZoom v zoom => exact ⟨h, nofun⟩
  | adoptSuper => exact ⟨h, nofun⟩
  | fitToContent => exact ⟨h, nofun⟩
  | unhideAll host => exact (safe_unhideAll h).map _
  | setBrowsing enabled host => exact (safe_setBrowsing h enabled).map _
  | updateSettings overrides host => exact (safe_updateSettings h overrides).map _

theorem sound_run (h : Sound c w.workspace) (calls : List Call) :
    Sound c (w.run calls).workspace := by
  induction calls generalizing w with
  | nil => exact h
  | cons call calls ih => exact ih (safe_perform h call).sound

theorem ofComparison_of_ofText {text : String} {settings : Settings} {fs : Surfaces Float}
    (h : ofText text settings fs = .ok w) :
    ∃ c, Comparison.ofText? text = some c ∧
      Workspace.ofComparison c settings = .ok w.workspace := by
  unfold ofText at h
  cases hc : Comparison.ofText? text with
  | none =>
    rw [hc] at h
    cases h
  | some c =>
    rw [hc] at h
    obtain ⟨ws, hws, h⟩ := exists_of_bind_ok h
    cases h
    exact ⟨c, rfl, hws⟩

theorem sound_reachable (hw : Reachable w) : ∃ c, Sound c w.workspace := by
  obtain ⟨text, settings, fs, w₀, calls, hopen, rfl⟩ := hw
  obtain ⟨c, _, hws⟩ := ofComparison_of_ofText hopen
  exact ⟨c, sound_run (Workspace.sound_ofComparison hws) calls⟩

/-- What can be relied on, whatever is under the pointer. -/
structure Dependable (w : Window) : Prop where
  /-- Every selected identity exists. -/
  selected : ∀ id ∈ w.workspace.selection.ids, id < w.workspace.overlay.merged.nodeCount
  handlePointer_ok : ∀ v g, ∃ t, (w.handlePointer v g).result = .ok t
  /-- Other calls fail only where an override is rejected or the layout engine fails. -/
  mayFail : ∀ call f, (w.perform call).result = .error f → call.MayFail w f
  /-- No call comes upon an element that does not exist. -/
  known : ∀ call v kind index, (w.perform call).result ≠ .error (.unknownElement v kind index)

theorem not_mayFail_unknownElement {call : Call} {kind : ElementKind} {index : Nat} :
    ¬ call.MayFail w (.unknownElement v kind index) := by
  have hlayout : ∀ host : Host, ¬ host.LayoutFails (.unknownElement v kind index) := by
    rintro host ⟨_, _, _, hf⟩
    cases hf
  cases call with
  | unhideAll host => exact hlayout host
  | setBrowsing enabled host => exact hlayout host
  | updateSettings overrides host =>
    rintro (⟨_, hf | ⟨_, hf⟩⟩ | hf)
    · cases hf
    · cases hf
    · exact hlayout host hf
  | _ => exact id

theorem dependable_of_sound (h : Sound c w.workspace) : Dependable w where
  selected := h.selected
  handlePointer_ok := by
    intro v g
    have hsafe : Safe c (fun _ => False) (w.handlePointer v g) := safe_handlePointer h g
    cases hr : (w.handlePointer v g).result with
    | error f => exact (hsafe.allowed_of_error f hr).elim
    | ok t => exact ⟨t, rfl⟩
  mayFail call f hf := (safe_perform h call).allowed_of_error f hf
  known call _ _ _ hf := not_mayFail_unknownElement ((safe_perform h call).allowed_of_error _ hf)

theorem dependable_reachable (hw : Reachable w) : Dependable w := by
  obtain ⟨c, hsound⟩ := sound_reachable hw
  exact dependable_of_sound hsound

/-- A text with the nodes, the edges and the pairings of the sample comparison. -/
def sampleText : String :=
  "[\"callGraph\",[null,null,null,[[1],[2],[3]],[[1,2],[2,3],[3,3]]]," ++
    "[null,null,null,[[2],[4],[1]],[[1,2],[2,4]]]," ++
    "[[1,1,\"identical\"],[2,2,\"instructionsOnlyChanged\"]]]"

/-- Surfaces that find the same at every point; the super view has a zoom of its own. -/
def sampleSurfaces (zoom : Float) (hit : Hit) : Surfaces Float :=
  .ofFn fun v =>
    { viewport := ⟨.zero, if v = .super then zoom else 1, .zero, ⟨200, 100⟩⟩
      content := v
      bounds := fun _ => .zero
      nodes := fun _ => 1
      hit := fun _ _ => hit }

/-- A left click in the primary view, at a point where its surface finds a node. -/
def sampleClick (n : NodeRef) : List Call :=
  [.resurface (sampleSurfaces 2 (some (.node n))),
    .handlePointer .primary ⟨.pressed, .left, .zero, false, false⟩,
    .handlePointer .primary ⟨.released, .left, .zero, false, false⟩]

/-- A run from the sample, with what it computes checked by computing it. -/
theorem exists_sample_run (settings : Settings) (calls : List Call) {p : Window → Bool}
    (h : (ofText sampleText settings (sampleSurfaces 2 none)).toOption.any
      (fun w => p (w.run calls)) = true) : ∃ w, Reachable w ∧ p w = true := by
  obtain ⟨w, hopen, hp⟩ := exists_ok_of_any h
  exact ⟨_, ⟨_, _, _, w, calls, hopen, rfl⟩, hp⟩

/-- Clicks on a node and on a marker, neither of which there is, leave what a click before them has
selected. -/
theorem dependable_sample : ∃ w, Reachable w ∧ w.workspace.selection.ids = [2] ∧
    w.workspace.markers.combined ≠ [] ∧ Dependable w := by
  obtain ⟨w, hw, hrun⟩ := exists_sample_run { browsing := ⟨true, 0, 0⟩ }
    (sampleClick (.raw 2) ++ sampleClick (.raw 9) ++ sampleClick (.marker 9))
    (p := fun w => w.workspace.selection.ids = [2] ∧ w.workspace.markers.combined ≠ [])
    (by decide +kernel)
  obtain ⟨hselected, hmarkers⟩ := of_decide_eq_true hrun
  exact ⟨w, hw, hselected, hmarkers, dependable_reachable hw⟩

end Window

end GraphCompare
