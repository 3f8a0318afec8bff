import GraphCompare.Workspace.Collapse

/-! Making everything visible again, after a question if that is expensive. -/
namespace GraphCompare

/-- Answer to a question; a dialog closed without an answer counts as no. -/
inductive Decision
  | yes
  | no
  | dismissed
deriving DecidableEq, Repr

def Decision.isYes (d : Decision) : Bool := d = .yes

/-- The surroundings of a workspace: who answers questions, and the layout engine, which may fail
for a reason. -/
structure Host where
  answer : String → Decision
  layout : Workspace → Option String

inductive Unhiding
  | nothingHidden
  | declined
  | revealed (nodes edges : Nat)
deriving DecidableEq, Repr

/-- The question before a reveal. -/
def revealQuestion (nodes edges : Nat) : String :=
  s!"The selected operation makes {nodes} more nodes with {edges} edges visible. " ++
    "Do you want to continue?"

namespace Layers

/-- Stages every flag of the super view and pushes them down. -/
def reveal (o : Overlay) (ls : Layers) : Layers :=
  (o.identities.foldl (stage true) ls).adoptSuper o

end Layers

namespace Workspace
variable (w : Workspace)

/-- Everything visible and no markers; a failing layout does not take that back. -/
def revealAll (host : Host) (nodes edges : Nat) : Outcome Workspace (Except Failure Unhiding) :=
  let next := { w with layers := w.layers.reveal w.overlay, markers := .none }
  let shown :=
    Notice.redraws View.all .full ++
      Notice.events (Event.visibility ++ [.markersChanged, .visibilitySettled])
  if !w.settings.automaticLayout then ⟨next, shown, .ok (.revealed nodes edges)⟩
  else
    let asked := shown ++ [.layout next.hasHiddenNodes]
    match host.layout next with
    | some reason => ⟨next, asked, .error (.layout reason)⟩
    | none => ⟨next, asked ++ Notice.redraws View.all .full, .ok (.revealed nodes edges)⟩

/-- Ends browsing. When as many edges are hidden as the settings say, that is confirmed first, and
a refusal turns live browsing on. -/
def unhide (host : Host) : Outcome Workspace (Except Failure Unhiding) :=
  if !w.hasHiddenNodes then .still w (.ok .nothingHidden)
  else
    let nodes := w.layers.combined.hiddenCount .node
    let edges := w.layers.combined.hiddenCount .edge
    if w.settings.warningThreshold.toNat ≤ edges then
      let question := revealQuestion nodes edges
      if (host.answer question).isYes then
        let out := w.revealAll host nodes edges
        { out with notices := .question question :: out.notices }
      else
        let out := w.setBrowsing true
        ⟨out.state, .question question :: out.notices, .ok .declined⟩
    else w.revealAll host nodes edges

end Workspace

end GraphCompare
