import GraphCompare.Window.Basic

/-! What a window makes of pointer input and of new settings. -/
namespace GraphCompare.Window
variable (w : Window)

/-- Redraws that follow a step which did not fail. -/
def redrawn (o : Outcome Window (Except Failure Unit)) (views : List View) (kind : Redraw) :
    Outcome Window (Except Failure Unit) :=
  o.andThen fun w _ => ⟨w, Notice.redraws views kind, .ok ()⟩

/-- A step of the workspace that fails without a trace, and whose answer is of no interest. -/
def attempt {α : Type} (o : Except Failure (Outcome Workspace α)) :
    Outcome Window (Except Failure Unit) :=
  match o with
  | .error e => .still w (.error e)
  | .ok o => (w.withWorkspace o).map fun _ => .ok ()

/-- Collapses around the selection and draws all views again. -/
def refocus : Outcome Window (Except Failure Unit) :=
  redrawn (w.attempt w.workspace.collapseToSelection) View.all .full

/-- Selects the node that a view shows. With live browsing the views collapse around it. -/
def selectNode (v : View) (i : NodeId) (additive : Bool) : Outcome Window (Except Failure Unit) :=
  match w.workspace.overlay.identityIn? v i with
  | none => .still w (.ok ())
  | some id =>
    let step := w.withWorkspace (w.workspace.select id additive)
    if !step.result then step.map fun _ => .ok ()
    else
      (step.map fun _ => .ok ()).andThen fun w (_ : Unit) =>
        if w.workspace.settings.browsing.enabled then w.refocus
        else ⟨w, Notice.redraws View.interactive .light, .ok ()⟩

/-- Expands the neighbourhood that a marker stands for. -/
def expandMarker (v : View) (i : NodeId) : Outcome Window (Except Failure Unit) :=
  match w.workspace.overlay.identityIn? v i with
  | none => .still w (.ok ())
  | some id => redrawn (w.attempt (w.workspace.reveal id)) View.all .full

def clearSelection : Outcome Window (Except Failure Unit) :=
  let step := w.withWorkspace w.workspace.clearSelection
  let redraws := if step.result then Notice.redraws View.interactive .light else []
  ⟨step.state, step.notices ++ redraws, .ok ()⟩

/-- Carries out what a gesture asks for. Menus are left to the caller. -/
def execute (v : View) : Command Float → Outcome Window (Except Failure Unit)
  | .select (.raw i) additive => w.selectNode v i additive
  | .select (.marker i) _ => w.expandMarker v i
  | .clear => w.clearSelection
  | .pan d => (w.pan v d).map .ok
  | .menu _ => .still w (.ok ())

/-- What lies under a gesture; only a press and a move look. -/
def hitOf (v : View) (g : Gesture Float) : Hit :=
  match g.action with
  | .pressed => (w.surfaces.get v).hitTest g.position
  | .moved => (w.surfaces.get v).hitTest g.position
  | .released => none
  | .dragged => none

/-- Feeds a gesture to the machine of a view and carries out its command. A view without a machine
takes no input. -/
def handlePointer (v : View) (g : Gesture Float) :
    Outcome Window (Except Failure (Option (Transition Float))) :=
  match w.pointers.get? v with
  | none => .still w (.ok none)
  | some m =>
    let (t, m) := m.handle g (w.hitOf v g)
    let next := { w with pointers := w.pointers.set v m }
    let redraw := t.redraw.toList.map (.redraw v ·)
    let step : Outcome Window (Except Failure Unit) := ⟨next, redraw, .ok ()⟩
    let done :=
      match t.command with
      | none => step
      | some c => step.andThen fun w _ => w.execute v c
    done.map fun r => r.map fun _ => some t

/-- Live browsing was switched: on, it collapses around the selection, if there is one; off, it
makes everything visible, which may be refused. -/
def browsingSwitched (host : Host) : Outcome Window (Except Failure (Option Unhiding)) :=
  if w.workspace.settings.browsing.enabled then
    if w.workspace.selection.isEmpty then .still w (.ok none)
    else w.refocus.map fun r => r.map fun _ => none
  else (w.unhideAll host).map fun r => r.map some

/-- Switches live browsing; answers how unhiding went if it was tried. -/
def setBrowsing (enabled : Bool) (host : Host) :
    Outcome Window (Except Failure (Option Unhiding)) :=
  let step := w.withWorkspace (w.workspace.setBrowsing enabled)
  if !step.result then step.map fun _ => .ok none
  else (step.map fun _ => .ok ()).andThen fun w (_ : Unit) => w.browsingSwitched host

/-- The work that changed settings ask for, the cameras apart. -/
def browsingChanged (changed : List SettingKey) (host : Host) :
    Outcome Window (Except Failure Unit) :=
  if changed.contains .proximityBrowsing then
    (w.browsingSwitched host).map fun r => r.map fun _ => ()
  else if changed.contains .proximityDepth && w.workspace.settings.browsing.enabled &&
      !w.workspace.selection.isEmpty then
    w.refocus
  else .still w (.ok ())

/-- Cameras that have just been coupled go to the camera of the super view. -/
def couplingChanged (changed : List SettingKey) : Outcome Window (Except Failure Unit) :=
  if changed.contains .synchronizedViews && w.workspace.settings.synchronizedViews then
    w.adoptSuper.map fun _ => .ok ()
  else .still w (.ok ())

/-- Overrides settings and does the work that the changed ones ask for. -/
def updateSettings (overrides : Json) (host : Host) :
    Outcome Window (Except Failure (List SettingKey)) :=
  match w.workspace.updateSettings overrides with
  | .error e => .still w (.error e)
  | .ok o =>
    let step := (w.withWorkspace o).map .ok
    step.andThen fun w changed =>
      (w.browsingChanged changed host).andThen fun w _ =>
        (w.couplingChanged changed).map fun r => r.map fun _ => changed

end GraphCompare.Window
