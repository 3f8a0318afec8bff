import GraphCompare.Proofs.Overlay.Assembling
import GraphCompare.Proofs.Workspace.Neighborhood

/-! A workspace run by strict operations, from the comparison on. As long as there are indices for
all its records, no call with any arguments meets a trap, and every call does what the plain one
does. -/
namespace GraphCompare
variable {c : Comparison} {o : Overlay} {ls : Layers} {w : Workspace} {keep : Array Bool}
  {focus : List NodeId} {id : NodeId} {s : Side}

/-- The indices of all elements of all views have 32 bits. -/
def Overlay.Indexable (o : Overlay) : Prop := ∀ v k, o.count v k ≤ UInt32.size

theorem Matching.indexable_overlay {m : Matching} (h : c.Matched m) (hm : m.Fits) :
    (m.overlay c).Indexable := by
  have hside : ∀ s : Side, ((m.overlay c).side s).graph.nodeCount ≤ UInt32.size ∧
      ((m.overlay c).side s).graph.edgeCount ≤ UInt32.size := by
    intro s
    rw [side_overlay, sideGraph, Graph.nodeCount_relabel, Graph.edgeCount_relabel]
    exact ⟨hm.sideNodes s, hm.sideEdges s⟩
  have hmerged : (m.overlay c).merged.nodeCount ≤ UInt32.size ∧
      (m.overlay c).merged.edgeCount ≤ UInt32.size := by
    obtain ⟨_, hnodes, harcs⟩ := merged_overlay h
    rw [← Graph.length_nodes, hnodes, ← Graph.length_edges, Graph.edges, harcs, List.length_map]
    exact ⟨hm.nodes, hm.edges⟩
  intro v k
  cases v with
  | primary => cases k with
    | node => exact (hside .primary).1
    | edge => exact (hside .primary).2
  | secondary => cases k with
    | node => exact (hside .secondary).1
    | edge => exact (hside .secondary).2
  | combined | super => cases k with
    | node => exact hmerged.1
    | edge => exact hmerged.2

theorem Overlay.indexable_ofComparison (hc : c.Fits) (h : ofComparison c = .ok o) :
    o.Indexable := by
  obtain ⟨m, hm, rfl⟩ := exists_matching h
  exact Matching.indexable_overlay hm (Matching.fits_of_matched hm hc)

namespace Overlay

def strictIdentities (o : Overlay) : Except Trap (List Element) := do
  let nodes ← Strict.indices .node o.merged.nodeCount
  let edges ← Strict.indices .edge o.merged.edgeCount
  return nodes.map .node ++ edges.map .edge

theorem strictIdentities_eq (h : o.Indexable) : o.strictIdentities = .ok o.identities := by
  refine (Trap.bind_of (Strict.indices_of_le .node (h .combined .node)) _).trans ?_
  exact Trap.bind_of (Strict.indices_of_le .edge (h .combined .edge)) _

end Overlay

namespace Layer
variable {N E : Type} {l : Layer} {g : Graph N E}

/-- The marker of a visible node. -/
def strictMarker? (l : Layer) (g : Graph N E) (v : NodeId) : Except Trap (Option Marker) := do
  let v ← Strict.index .node v
  let near ← g.strictNeighbors v
  match (near.filter fun w => !l.get (.node w)).length with
  | 0 => return none
  | n + 1 => return some ⟨v, n + 1⟩

def strictMarkers (l : Layer) (g : Graph N E) : Except Trap (List Marker) := do
  let found ← l.visibleNodes.mapM (l.strictMarker? g)
  return found.filterMap fun m => m

theorem strictMarkers_eq (hg : g.IsSimple) (h : l.nodes.size ≤ UInt32.size) :
    l.strictMarkers g = .ok (l.markers g) := by
  have hmarker : ∀ v ∈ l.visibleNodes, l.strictMarker? g v = .ok (l.marker? g v) := by
    intro v hv
    have hlt : v < l.nodes.size := List.mem_range.mp (List.mem_of_mem_filter hv)
    refine (Trap.bind_of (Strict.index_of_lt .node (Nat.lt_of_lt_of_le hlt h)) _).trans ?_
    refine (Trap.bind_of (Graph.strictNeighbors_eq hg v) _).trans ?_
    unfold marker? hiddenNeighbors
    cases ((g.neighbors v).filter fun w => !l.get (.node w)).length <;> rfl
  refine (Trap.bind_of (Strict.mapM_eq_ok hmarker) _).trans ?_
  rw [List.filterMap_map]
  rfl

theorem hiddenCount_le (l : Layer) (k : ElementKind) : l.hiddenCount k ≤ (l.flags k).size :=
  Array.count_le_size

end Layer

namespace Layers

/-- An edge stays with its ends; the second one is looked up if the first one stays. -/
def strictKeeps (o : Overlay) (keep : Array Bool) : Element → Except Trap Bool
  | .node i => (Trap.outOfRange i).guard keep[i]?
  | .edge i => do
    let (v, w) ← Trap.missing.guard (o.merged.endpoints? i)
    let source ← (Trap.outOfRange v).guard keep[v]?
    if source then (Trap.outOfRange w).guard keep[w]? else return false

/-- Shows or hides one identity, which must be there. -/
def strictShowIdentity (o : Overlay) (keep : Array Bool) (ls : Layers) (e : Element) :
    Strict Failure Layers := do
  let m ← Strict.lift (Trap.missing.guard (o.merged? e))
  let visible ← Strict.lift (strictKeeps o keep e)
  Strict.ofExcept (Side.both.foldlM (showHeld o m e visible) ls)

def strictShowing (o : Overlay) (keep : Array Bool) (ls : Layers) : Strict Failure Layers := do
  let identities ← Strict.lift o.strictIdentities
  identities.foldlM (strictShowIdentity o keep) ls

def strictMarkers (o : Overlay) (ls : Layers) : Except Trap Markers := do
  let primary ← ls.primary.strictMarkers (o.side .primary).graph
  let secondary ← ls.secondary.strictMarkers (o.side .secondary).graph
  let combined ← ls.combined.strictMarkers o.merged
  let super ← ls.super.strictMarkers o.merged
  return ⟨primary, secondary, combined, super⟩

/-- Goes through all identities to stage their flags, and again to push them down. -/
def strictReveal (o : Overlay) (ls : Layers) : Except Trap Layers := do
  let staging ← o.strictIdentities
  let pushing ← o.strictIdentities
  return pushing.foldl (pushDown o) (staging.foldl (stage true) ls)

theorem strictKeeps_eq (hc : o.Coherent) (hkeep : keep.size = o.merged.nodeCount) {e : Element}
    (he : e ∈ o.identities) : strictKeeps o keep e = .ok (keeps o keep e) := by
  have hget : ∀ {i}, i < o.merged.nodeCount →
      (Trap.outOfRange i).guard keep[i]? = .ok ((keep[i]?).getD false) := by
    intro i hi
    rw [Array.getElem?_eq_getElem (hkeep ▸ hi)]
    rfl
  obtain ⟨x, hx⟩ := Overlay.mem_identities.mp he
  cases e with
  | node i => exact hget (Graph.lt_of_node? hx)
  | edge i =>
    obtain ⟨v, w, hvw⟩ := Graph.exists_endpoints? (Graph.lt_of_edge? hx)
    obtain ⟨hv, hw⟩ := hc.merged_simple.ends_lt hvw
    simp only [strictKeeps, keeps, hvw, Trap.guard_some, Trap.ok_bind, hget hv]
    cases (keep[v]?).getD false with
    | false => rfl
    | true => exact hget hw

example (o : Overlay) : strictKeeps o #[true] (.node 1) = .error (.outOfRange 1) := rfl

theorem strictShowing_gives (hc : o.Coherent) (ho : o.Indexable)
    (hkeep : keep.size = o.merged.nodeCount) (ls : Layers) :
    (strictShowing o keep ls).Gives (showing o keep ls) := by
  refine .lift_bind (Overlay.strictIdentities_eq ho) ?_
  apply Strict.gives_foldlM (P := fun _ _ => True) []
  · intro before e after ls heq _
    have he : e ∈ o.identities := by
      rw [← List.nil_append o.identities, ← heq]
      simp
    obtain ⟨x, hx⟩ := Overlay.mem_identities.mp he
    refine ⟨?_, fun _ _ => trivial⟩
    unfold strictShowIdentity showIdentity
    rw [hx]
    exact .lift_bind rfl (.lift_bind (strictKeeps_eq hc hkeep he) (Strict.gives_ofExcept _))
  · trivial

theorem strictMarkers_eq (hc : o.Coherent) (ho : o.Indexable) (hs : Sized o ls) :
    strictMarkers o ls = .ok (ls.markers o) := by
  have hsize : ∀ v, (ls.get v).nodes.size ≤ UInt32.size := fun v => hs v .node ▸ ho v .node
  have hside := fun s : Side => Layer.strictMarkers_eq (hc.side_simple s) (hsize s.view)
  have hmerged := fun v : View => Layer.strictMarkers_eq hc.merged_simple (hsize v)
  refine (Trap.bind_of (hside .primary) _).trans ?_
  refine (Trap.bind_of (hside .secondary) _).trans ?_
  refine (Trap.bind_of (hmerged .combined) _).trans ?_
  exact Trap.bind_of (hmerged .super) _

theorem strictReveal_eq (ho : o.Indexable) (ls : Layers) :
    strictReveal o ls = .ok (ls.reveal o) := by
  unfold strictReveal
  rw [Overlay.strictIdentities_eq ho]
  rfl

end Layers

namespace Workspace

def strictOfComparison (c : Comparison) (settings : Settings) : Strict Failure Workspace := do
  let _ ← Strict.ofExcept settings.validate
  let o ← Overlay.strictOfComparison c
  return new o settings

variable (w : Workspace)

/-- No more nodes are hidden than there are. -/
def strictCounts : Except Trap Counts := do
  let hidden := w.layers.combined.hiddenCount .node
  let visible ← Strict.minus (w.overlay.nodeCount .combined) hidden
  return ⟨visible, hidden, w.markers.combined.length⟩

def strictShowOnly (keep : Array Bool) : Strict Failure (Outcome Workspace Counts) := do
  let layers ← w.layers.strictShowing w.overlay keep
  let markers ← Strict.lift (layers.strictMarkers w.overlay)
  let next := { w with layers := layers, markers := markers }
  let counts ← Strict.lift next.strictCounts
  return ⟨next, Notice.events (Event.visibility ++ [.markersChanged]), counts⟩

def strictNearby (focus : List NodeId) : Except Trap (Array Bool) := do
  let g := w.overlay.merged
  let down ← g.strictDepths focus .outgoing w.settings.browsing.childDepth.toNat
  let up ← g.strictDepths focus .incoming w.settings.browsing.parentDepth.toNat
  return Array.zipWith (fun d u => d.isSome || u.isSome) down up

def strictCollapse (focus : List NodeId) : Strict Failure (Outcome Workspace Counts) :=
  if focus.isEmpty then do
    let counts ← Strict.lift w.strictCounts
    return .still w counts
  else
    match focus.find? fun id => !decide (id < w.overlay.merged.nodeCount) with
    | some id => throw (.unknownElement .combined .node id)
    | none => do
      let keep ← Strict.lift (w.strictNearby focus)
      w.strictShowOnly keep

/-- Marks an index in a vector. -/
def strictMark (keep : Array Bool) (i : NodeId) : Except Trap (Array Bool) := do
  (Trap.outOfRange i).check (i < keep.size)
  return keep.setIfInBounds i true

/-- What is visible, with one identity and then its neighbours marked besides. -/
def strictExpanded (id : NodeId) : Except Trap (Array Bool) := do
  let ids ← Strict.indices .node w.overlay.merged.nodeCount
  let shown := (ids.map fun i => w.layers.combined.get (.node i)).toArray
  let marked ← strictMark shown id
  let near ← w.overlay.merged.strictNeighbors id
  near.foldlM strictMark marked

def strictReveal (id : NodeId) : Strict Failure (Outcome Workspace Counts) :=
  if id < w.overlay.merged.nodeCount then do
    let keep ← Strict.lift (w.strictExpanded id)
    w.strictShowOnly keep
  else throw (.unknownElement .combined .node id)

def strictSetVisible (s : Side) (e : Element) (visible : Bool) :
    Strict Failure (Outcome Workspace Bool) := do
  let (changed, layers) ← Strict.ofExcept (w.layers.setVisible w.overlay s e visible)
  if !changed then return .still { w with layers := layers } false
  else if w.markers.isNone then
    return ⟨{ w with layers := layers }, Notice.events Event.visibility, true⟩
  else
    let markers ← Strict.lift (layers.strictMarkers w.overlay)
    return ⟨{ w with layers := layers, markers := markers },
      Notice.events (Event.visibility ++ [.markersChanged]), true⟩

def strictSetNodeVisibleAt (s : Side) (a : Address) (visible : Bool) :
    Strict Failure (Outcome Workspace Bool) := do
  let v ← Strict.ofExcept ((w.overlay.side s).nodeId a)
  w.strictSetVisible s (.node v) visible

def strictRevealAll (host : Host) (nodes edges : Nat) :
    Except Trap (Outcome Workspace (Except Failure Unhiding)) := do
  let layers ← w.layers.strictReveal w.overlay
  let next := { w with layers := layers, markers := .none }
  let shown :=
    Notice.redraws View.all .full ++
      Notice.events (Event.visibility ++ [.markersChanged, .visibilitySettled])
  if !w.settings.automaticLayout then return ⟨next, shown, .ok (.revealed nodes edges)⟩
  else
    let asked := shown ++ [.layout next.hasHiddenNodes]
    match host.layout next with
    | some reason => return ⟨next, asked, .error (.layout reason)⟩
    | none => return ⟨next, asked ++ Notice.redraws View.all .full, .ok (.revealed nodes edges)⟩

def strictUnhide (host : Host) : Except Trap (Outcome Workspace (Except Failure Unhiding)) :=
  if !w.hasHiddenNodes then return .still w (.ok .nothingHidden)
  else
    let nodes := w.layers.combined.hiddenCount .node
    let edges := w.layers.combined.hiddenCount .edge
    if w.settings.warningThreshold.toNat ≤ edges then
      let question := revealQuestion nodes edges
      if (host.answer question).isYes then do
        let out ← w.strictRevealAll host nodes edges
        return { out with notices := .question question :: out.notices }
      else
        let out := w.setBrowsing true
        return ⟨out.state, .question question :: out.notices, .ok .declined⟩
    else w.strictRevealAll host nodes edges

def strictSettled {α : Type} (x : Strict Failure (Outcome Workspace α)) :
    Except Trap (Outcome Workspace (Except Failure Unit)) := do
  let r ← x.run
  return w.settled r

/-- A public call; the calls that go through no indices are performed as they are. -/
def strictPerform : Call → Except Trap (Outcome Workspace (Except Failure Unit))
  | .setVisible s e visible => w.strictSettled (w.strictSetVisible s e visible)
  | .setNodeVisibleAt s a visible => w.strictSettled (w.strictSetNodeVisibleAt s a visible)
  | .unhide host => do
    let out ← w.strictUnhide host
    return out.map fun r => r.map fun _ => ()
  | .collapse focus => w.strictSettled (w.strictCollapse focus)
  | .collapseToSelection => w.strictSettled (w.strictCollapse w.selection.ids)
  | .reveal id => w.strictSettled (w.strictReveal id)
  | .select id additive => return w.perform (.select id additive)
  | .toggleSelected id => return w.perform (.toggleSelected id)
  | .clearSelection => return w.perform .clearSelection
  | .updateSettings overrides => return w.perform (.updateSettings overrides)
  | .setBrowsing enabled => return w.perform (.setBrowsing enabled)

def strictRun (calls : List Call) : Except Trap Workspace :=
  calls.foldlM (fun w call => do return (← w.strictPerform call).state) w

/-- The nodes of a side with their indices and flags. -/
def strictSideNodes (s : Side) : Except Trap (List (NodeId × RawNode × Bool)) :=
  (w.overlay.side s).graph.nodes.zipIdx.mapM fun (n, v) => do
    let v ← Strict.index .node v
    return (v, n, (w.layers.get s.view).get (.node v))

def strictDrawn (s : Side) : Except Trap (List DrawnNode) := do
  let nodes ← w.strictSideNodes s
  return (nodes.filter (·.2.2)).map (fun n => .raw n.1 n.2.1) ++
    (w.markers.get s.view).map .marker

variable {w}

theorem strictOfComparison_gives (hc : c.Fits) (settings : Settings) :
    (strictOfComparison c settings).Gives (ofComparison c settings) := by
  refine (Strict.gives_ofExcept _).bind fun _ _ => ?_
  exact (Overlay.strictOfComparison_gives hc).bind fun o _ => Strict.gives_pure _

theorem strictCounts_eq (h : Layers.Sized w.overlay w.layers) : w.strictCounts = .ok w.counts := by
  have hle := w.layers.combined.hiddenCount_le .node
  rw [show (w.layers.combined.flags .node).size = _ from h .combined .node] at hle
  exact Trap.bind_of (Strict.minus_of_le hle) _

theorem strictShowOnly_gives (hc : o.Coherent) (ho : o.Indexable) (h : Coupled o w)
    (hkeep : keep.size = o.merged.nodeCount) :
    (w.strictShowOnly keep).Gives (w.showOnly keep) := by
  obtain ⟨rfl, hd⟩ := h
  obtain ⟨ls, hls, hshown⟩ := Layers.showing_ok hc hd keep
  have hgives := Layers.strictShowing_gives hc ho hkeep w.layers
  rw [hls] at hgives
  rw [showOnly_of_showing hls]
  refine hgives.bind_ok (.lift_bind (Layers.strictMarkers_eq hc ho hshown.derived.sized) ?_)
  exact .lift_bind (strictCounts_eq hshown.derived.sized) (Strict.gives_pure _)

theorem strictNearby_eq (hg : w.overlay.merged.IsSimple) (focus : List NodeId) :
    w.strictNearby focus = .ok (w.nearby focus) := by
  refine (Trap.bind_of (Graph.strictDepths_eq hg _ _ _) _).trans ?_
  exact Trap.bind_of (Graph.strictDepths_eq hg _ _ _) _

theorem strictCollapse_gives (hc : o.Coherent) (ho : o.Indexable) (h : Coupled o w)
    (focus : List NodeId) : (w.strictCollapse focus).Gives (w.collapse focus) := by
  have hoverlay := h.overlay_eq
  unfold strictCollapse collapse
  split
  · exact .lift_bind (strictCounts_eq (hoverlay.symm ▸ h.derived.sized)) (Strict.gives_pure _)
  · cases focus.find? fun id => !decide (id < w.overlay.merged.nodeCount) with
    | some id => exact Strict.gives_throw _
    | none =>
      have hg : w.overlay.merged.IsSimple := hoverlay ▸ hc.merged_simple
      refine .lift_bind (strictNearby_eq hg focus) (strictShowOnly_gives hc ho h ?_)
      rw [size_nearby hg, hoverlay]

theorem getElem?_foldl_mark (l : List NodeId) (keep : Array Bool) (i : NodeId) :
    (l.foldl (fun keep j => keep.setIfInBounds j true) keep)[i]? =
      keep[i]?.map fun b => b || l.contains i := by
  induction l generalizing keep with
  | nil => simp
  | cons j l ih =>
    rw [List.foldl_cons, ih, Array.getElem?_setIfInBounds]
    by_cases hji : j = i
    · subst hji
      by_cases hj : j < keep.size <;> simp [hj]
    · simp [hji, Ne.symm hji]

theorem strictMark_foldlM {l : List NodeId} (hl : ∀ i ∈ l, i < keep.size) :
    l.foldlM strictMark keep = .ok (l.foldl (fun keep j => keep.setIfInBounds j true) keep) := by
  refine (Strict.foldlM_eq_ok (P := fun k => k.size = keep.size) ?_ rfl).1
  intro k hk i hi
  refine ⟨Trap.bind_of (Trap.check_of (hk ▸ hl i hi)) _, ?_⟩
  rw [Array.size_setIfInBounds, hk]

theorem strictExpanded_eq (hc : o.Coherent) (ho : o.Indexable) (h : Coupled o w)
    (hid : id < o.merged.nodeCount) : w.strictExpanded id = .ok (w.expanded id) := by
  obtain ⟨rfl, hd⟩ := h
  have hsize : w.layers.combined.nodes.size = w.overlay.merged.nodeCount :=
    hd.sized .combined .node
  have hshown : ((List.range w.overlay.merged.nodeCount).map fun i =>
      w.layers.combined.get (.node i)).toArray = w.layers.combined.nodes := by
    rw [← hsize, ← Layer.nodes_eq_map_get]
  have hin : ∀ i ∈ id :: w.overlay.merged.neighbors id, i < w.layers.combined.nodes.size := by
    intro i hi
    rw [hsize]
    rcases List.mem_cons.mp hi with rfl | hi
    · exact hid
    · exact ((Graph.mem_neighbors_iff hc.merged_simple).mp hi).2.lt_right hc.merged_simple
  have hmarked := strictMark_foldlM hin
  rw [List.foldlM_cons] at hmarked
  refine (Trap.bind_of (Strict.indices_of_le .node (ho .combined .node)) _).trans ?_
  simp only [Overlay.count, Overlay.nodeCount, View.side?, hshown,
    Graph.strictNeighbors_eq hc.merged_simple, Trap.ok_bind]
  refine hmarked.trans (congrArg Except.ok (Array.ext_getElem? fun i => ?_))
  rw [getElem?_foldl_mark, expanded, Array.getElem?_mapIdx]
  simp [Bool.or_assoc]

theorem strictReveal_gives (hc : o.Coherent) (ho : o.Indexable) (h : Coupled o w) (id : NodeId) :
    (w.strictReveal id).Gives (w.reveal id) := by
  have hoverlay := h.overlay_eq
  unfold strictReveal reveal
  split
  · rename_i hid
    rw [hoverlay] at hid
    refine .lift_bind (strictExpanded_eq hc ho h hid) (strictShowOnly_gives hc ho h ?_)
    rw [expanded, Array.size_mapIdx]
    exact h.derived.sized .combined .node
  · exact Strict.gives_throw _

theorem strictSetVisible_gives (hc : o.Coherent) (ho : o.Indexable) (h : Coupled o w) (s : Side)
    (e : Element) (visible : Bool) :
    (w.strictSetVisible s e visible).Gives (w.setVisible s e visible) := by
  obtain ⟨rfl, hd⟩ := h
  refine (Strict.gives_ofExcept _).bind ?_
  rintro ⟨changed, ls⟩ hok
  have hsized := (Layers.derived_setVisible hc hd hok).sized
  cases changed with
  | false => exact Strict.gives_pure _
  | true =>
    cases hm : w.markers.isNone with
    | true => exact Strict.gives_pure _
    | false => exact .lift_bind (Layers.strictMarkers_eq hc ho hsized) (Strict.gives_pure _)

theorem strictSetNodeVisibleAt_gives (hc : o.Coherent) (ho : o.Indexable) (h : Coupled o w)
    (s : Side) (a : Address) (visible : Bool) :
    (w.strictSetNodeVisibleAt s a visible).Gives (w.setNodeVisibleAt s a visible) :=
  (Strict.gives_ofExcept _).bind fun v _ => strictSetVisible_gives hc ho h s (.node v) visible

theorem strictRevealAll_eq (ho : w.overlay.Indexable) (host : Host) (nodes edges : Nat) :
    w.strictRevealAll host nodes edges = .ok (w.revealAll host nodes edges) := by
  refine (Trap.bind_of (Layers.strictReveal_eq ho w.layers) _).trans ?_
  unfold revealAll
  dsimp only
  cases w.settings.automaticLayout with
  | false => rfl
  | true =>
    cases host.layout { w with layers := w.layers.reveal w.overlay, markers := .none } <;> rfl

theorem strictUnhide_eq (ho : w.overlay.Indexable) (host : Host) :
    w.strictUnhide host = .ok (w.unhide host) := by
  unfold strictUnhide unhide
  dsimp only
  split
  · rfl
  · split
    · split
      · exact Trap.bind_of (strictRevealAll_eq ho host _ _) _
      · rfl
    · exact strictRevealAll_eq ho host _ _

theorem strictSettled_eq {α : Type} {x : Strict Failure (Outcome Workspace α)}
    {y : Except Failure (Outcome Workspace α)} (h : x.Gives y) :
    w.strictSettled x = .ok (w.settled y) :=
  Trap.bind_of h _

/-- No call meets a trap on a workspace whose views agree. -/
theorem strictPerform_eq (hc : o.Coherent) (ho : o.Indexable) (h : Coupled o w) (call : Call) :
    w.strictPerform call = .ok (w.perform call) := by
  cases call with
  | setVisible s e visible => exact strictSettled_eq (strictSetVisible_gives hc ho h s e visible)
  | setNodeVisibleAt s a visible =>
    exact strictSettled_eq (strictSetNodeVisibleAt_gives hc ho h s a visible)
  | unhide host => exact Trap.bind_of (strictUnhide_eq (h.overlay_eq ▸ ho) host) _
  | collapse focus => exact strictSettled_eq (strictCollapse_gives hc ho h focus)
  | collapseToSelection => exact strictSettled_eq (strictCollapse_gives hc ho h w.selection.ids)
  | reveal id => exact strictSettled_eq (strictReveal_gives hc ho h id)
  | select | toggleSelected | clearSelection | updateSettings | setBrowsing => rfl

theorem strictRun_eq (hc : o.Coherent) (ho : o.Indexable) (h : Coupled o w) (calls : List Call) :
    w.strictRun calls = .ok (w.run calls) := by
  refine (Strict.foldlM_eq_ok (P := Coupled o) ?_ h).1
  intro w hw call _
  exact ⟨Trap.bind_of (strictPerform_eq hc ho hw call) _, coupled_after hc hw call⟩

theorem strictDrawn_eq (ho : w.overlay.Indexable) (s : Side) :
    w.strictDrawn s = .ok (w.drawn s) := by
  have hnodes : w.strictSideNodes s = .ok (w.sideNodes s) := by
    rw [sideNodes, List.mapIdx_eq_zipIdx_map]
    apply Strict.mapM_eq_ok
    rintro ⟨n, v⟩ hv
    have hlt := List.snd_lt_of_mem_zipIdx hv
    rw [Graph.length_nodes] at hlt
    have hcount : (w.overlay.side s).graph.nodeCount ≤ UInt32.size := by
      cases s with
      | primary => exact ho .primary .node
      | secondary => exact ho .secondary .node
    exact Trap.bind_of (Strict.index_of_lt .node (Nat.lt_of_lt_of_le hlt hcount)) _
  exact Trap.bind_of hnodes _

end Workspace

/-- What it means that nothing built from a comparison meets a trap: every operation gives what the
plain one gives, a failure included. -/
structure Comparison.MeetsNoTrap (c : Comparison) : Prop where
  overlay : (Overlay.strictOfComparison c).Gives (Overlay.ofComparison c)
  opening : ∀ settings, (Workspace.strictOfComparison c settings).Gives
    (Workspace.ofComparison c settings)
  call : ∀ w, Workspace.Reachable c w → ∀ call, w.strictPerform call = .ok (w.perform call)
  run : ∀ w, Workspace.Reachable c w → ∀ calls, w.strictRun calls = .ok (w.run calls)
  drawing : ∀ w, Workspace.Reachable c w → ∀ s, w.strictDrawn s = .ok (w.drawn s)

/-- A comparison whose records have indices of 32 bits meets no trap, whatever is called on it. -/
theorem Comparison.meetsNoTrap_of_fits (h : c.Fits) : c.MeetsNoTrap := by
  have hreach : ∀ {w}, Workspace.Reachable c w →
      ∃ o : Overlay, o.Coherent ∧ o.Indexable ∧ Workspace.Coupled o w := by
    intro w hw
    obtain ⟨o, ho, hc, hcoupled⟩ := Workspace.exists_coupled hw
    exact ⟨o, hc, Overlay.indexable_ofComparison h ho, hcoupled⟩
  refine ⟨Overlay.strictOfComparison_gives h, Workspace.strictOfComparison_gives h, ?_, ?_, ?_⟩
  · intro w hw call
    obtain ⟨o, hc, ho, hcoupled⟩ := hreach hw
    exact Workspace.strictPerform_eq hc ho hcoupled call
  · intro w hw calls
    obtain ⟨o, hc, ho, hcoupled⟩ := hreach hw
    exact Workspace.strictRun_eq hc ho hcoupled calls
  · intro w hw s
    obtain ⟨o, _, ho, hcoupled⟩ := hreach hw
    exact Workspace.strictDrawn_eq (hcoupled.overlay_eq ▸ ho) s

theorem Comparison.meetsNoTrap_sample : sample.Fits ∧ sample.MeetsNoTrap := by
  have hfits : sample.Fits := ⟨by decide, by decide⟩
  exact ⟨hfits, meetsNoTrap_of_fits hfits⟩

end GraphCompare
