import GraphCompare.Proofs.Overlay.Coherence
import GraphCompare.Proofs.Overlay.Strict

/-! An overlay assembled step by step, by strict operations. Nodes and edges of the sides are taken
in order; each either opens a merged element or belongs to one that is open, and has the identity
written at it. What the steps have done after so many elements is known in full, which keeps every
step off its traps and makes the last state the overlay. -/
namespace GraphCompare

/-- The graphs of both sides, with identities written so far, and the merged graph so far. -/
structure Assembly where
  sides : PerSide (Graph RawNode RawEdge)
  merged : Graph Merged Merged

namespace Assembly
variable (a : Assembly)

/-- Writes an identity at a node. -/
def identifyNode (s : Side) (v id : NodeId) : Except Trap Assembly := do
  let n ← Trap.missing.guard ((a.sides.get s).node? v)
  return { a with sides := a.sides.set s ((a.sides.get s).setNode v { n with identity := id }) }

/-- Changes what is written at an edge. -/
def identifyEdge (s : Side) (e : EdgeId) (change : RawEdge → RawEdge) : Except Trap Assembly := do
  let r ← Trap.missing.guard ((a.sides.get s).edge? e)
  return { a with sides := a.sides.set s ((a.sides.get s).setEdge e (change r)) }

/-- Opens a merged node for a primary one, which its counterpart belongs to as well. -/
def takePrimaryNode (v : NodeId) : Except Trap Assembly := do
  let n ← Trap.missing.guard (a.sides.primary.node? v)
  let (id, merged) ← a.merged.strictAddNode ⟨⟨some v, n.counterpart⟩, n.kind⟩
  let a ← { a with merged := merged }.identifyNode .primary v id
  match n.counterpart with
  | none => return a
  | some w => a.identifyNode .secondary w id

/-- Opens a merged node for a secondary one that has no counterpart. -/
def takeSecondaryNode (w : NodeId) : Except Trap Assembly := do
  let n ← Trap.missing.guard (a.sides.secondary.node? w)
  if n.counterpart.isSome then return a
  else
    let (id, merged) ← a.merged.strictAddNode ⟨⟨none, some w⟩, .unmatched⟩
    { a with merged := merged }.identifyNode .secondary w id

/-- A primary edge with the secondary edge between the counterparts of its ends. -/
def edgeMatch (e : EdgeId) : Except Trap (EdgeId × Option EdgeId × MatchKind) := do
  let (v, w) ← Trap.missing.guard (a.sides.primary.endpoints? e)
  let x ← Trap.missing.guard (a.sides.primary.node? v)
  let y ← Trap.missing.guard (a.sides.primary.node? w)
  let counterpart :=
    match x.counterpart, y.counterpart with
    | some v', some w' => a.sides.secondary.findEdge? v' w'
    | _, _ => none
  return (e, counterpart, if counterpart.isSome then .ofEnds x.kind y.kind else .unmatched)

/-- Opens a merged edge between the identities of the ends of an edge, which no edge may join
yet. -/
def joinMerged (s : Side) (e : EdgeId) (x : Merged) : Except Trap (EdgeId × Assembly) := do
  let (v, w) ← Trap.missing.guard ((a.sides.get s).endpoints? e)
  let source ← Trap.missing.guard ((a.sides.get s).node? v)
  let target ← Trap.missing.guard ((a.sides.get s).node? w)
  (Trap.joined source.identity target.identity).check
    (a.merged.findEdge? source.identity target.identity = none)
  let added ← a.merged.strictAddEdge source.identity target.identity x
  let (id, merged) ← Trap.missing.guard added
  return (id, { a with merged := merged })

def takePrimaryEdge (entry : EdgeId × Option EdgeId × MatchKind) : Except Trap Assembly := do
  let (e, counterpart, kind) := entry
  let (id, a) ← a.joinMerged .primary e ⟨⟨some e, counterpart⟩, kind⟩
  let a ← a.identifyEdge .primary e
    fun r => { r with counterpart := counterpart, kind := kind, identity := id }
  match counterpart with
  | none => return a
  | some f =>
    a.identifyEdge .secondary f fun r =>
      { r with counterpart := some e, kind := kind, identity := id }

def takeSecondaryEdge (e : EdgeId) : Except Trap Assembly := do
  let r ← Trap.missing.guard (a.sides.secondary.edge? e)
  if r.counterpart.isSome then return a
  else
    let (id, a) ← a.joinMerged .secondary e ⟨⟨none, some e⟩, .unmatched⟩
    a.identifyEdge .secondary e fun r => { r with identity := id }

/-- Primary nodes, secondary nodes, and then edges in the same way, once it is known which edges
match. -/
def complete : Except Trap Assembly := do
  let primaryNodes ← Strict.indices .node a.sides.primary.nodeCount
  let a ← primaryNodes.foldlM takePrimaryNode a
  let secondaryNodes ← Strict.indices .node a.sides.secondary.nodeCount
  let a ← secondaryNodes.foldlM takeSecondaryNode a
  let primaryEdges ← Strict.indices .edge a.sides.primary.edgeCount
  let entries ← primaryEdges.mapM a.edgeMatch
  let a ← entries.foldlM takePrimaryEdge a
  let secondaryEdges ← Strict.indices .edge a.sides.secondary.edgeCount
  secondaryEdges.foldlM takeSecondaryEdge a

end Assembly

namespace Graph
variable {N E N' E' : Type} {g : Graph N E} {f f' : NodeId → N → N'} {h h' : EdgeId → E → E'}

theorem relabel_congr (hf : ∀ v n, g.node? v = some n → f v n = f' v n)
    (hh : ∀ e r, g.edge? e = some r → h e r = h' e r) : g.relabel f h = g.relabel f' h' := by
  unfold relabel
  congr 1
  · apply Array.ext_getElem?
    intro v
    rw [Array.getElem?_mapIdx, Array.getElem?_mapIdx]
    cases hv : g.vertices[v]? with
    | none => rfl
    | some x => simp [hf v x.label (by simp [node?, hv])]
  · apply Array.ext_getElem?
    intro e
    rw [Array.getElem?_mapIdx, Array.getElem?_mapIdx]
    cases he : g.arcs[e]? with
    | none => rfl
    | some x => simp [hh e x.label (by simp [edge?, he])]

theorem setNode_relabel (g : Graph N E) (f : NodeId → N → N') (h : EdgeId → E → E') (v : NodeId)
    (x : N') :
    (g.relabel f h).setNode v x = g.relabel (fun u n => if u = v then x else f u n) h := by
  unfold setNode relabel
  congr 1
  apply Array.ext_getElem?
  intro u
  rw [Array.getElem?_modify, Array.getElem?_mapIdx, Array.getElem?_mapIdx]
  cases g.vertices[u]? with
  | none => simp
  | some y => by_cases huv : v = u <;> simp [huv, Ne.symm]

theorem setEdge_relabel (g : Graph N E) (f : NodeId → N → N') (h : EdgeId → E → E') (e : EdgeId)
    (x : E') :
    (g.relabel f h).setEdge e x = g.relabel f fun d r => if d = e then x else h d r := by
  unfold setEdge relabel
  congr 1
  apply Array.ext_getElem?
  intro d
  rw [Array.getElem?_modify, Array.getElem?_mapIdx, Array.getElem?_mapIdx]
  cases g.arcs[d]? with
  | none => simp
  | some y => by_cases hde : e = d <;> simp [hde, Ne.symm]

theorem findEdge?_relabel (g : Graph N E) (f : NodeId → N → N') (h : EdgeId → E → E')
    (v w : NodeId) : (g.relabel f h).findEdge? v w = g.findEdge? v w := rfl

end Graph

/-- What is written at the elements of both sides: a partner, if one is known, and an identity. -/
abbrev Marks := Side → Nat → Option Partner × Nat

/-- Something else is written at one element. -/
def Marks.write (marks : Marks) (s : Side) (i : Nat) (x : Option Partner × Nat) : Marks :=
  fun t j => if t = s ∧ j = i then x else marks t j

theorem Marks.write_other (marks : Marks) (s : Side) (i : Nat) (x : Option Partner × Nat) :
    marks.write s i x s.other = marks s.other := by
  funext j
  rw [Marks.write, if_neg]
  exact fun h => s.other_ne h.1

namespace Matching
variable {m : Matching} {c : Comparison} {nodes edges : Marks} {merged : Graph Merged Merged}
  {s : Side} {v : NodeId} {e : EdgeId} {id : Nat}

def markedNode (x : Option Partner × Nat) (n : ListedNode) : RawNode :=
  ⟨n.address, n.label, kindOf x.1, x.1.map (·.index), x.2⟩

def markedEdge (x : Option Partner × Nat) (r : ListedEdge) : RawEdge :=
  ⟨r.source, r.target, kindOf x.1, x.1.map (·.index), x.2⟩

/-- The assembly in which this is written. -/
def marked (m : Matching) (nodes edges : Marks) (merged : Graph Merged Merged) : Assembly where
  sides := .ofFn fun s =>
    (m.drafts.get s).relabel (fun v => markedNode (nodes s v)) fun e => markedEdge (edges s e)
  merged := merged

theorem node?_marked (s : Side) (v : NodeId) :
    ((m.marked nodes edges merged).sides.get s).node? v =
      ((m.drafts.get s).node? v).map (markedNode (nodes s v)) := by
  rw [marked, PerSide.get_ofFn, Graph.node?_relabel]

theorem edge?_marked (s : Side) (e : EdgeId) :
    ((m.marked nodes edges merged).sides.get s).edge? e =
      ((m.drafts.get s).edge? e).map (markedEdge (edges s e)) := by
  rw [marked, PerSide.get_ofFn, Graph.edge?_relabel]

theorem endpoints?_marked (s : Side) (e : EdgeId) :
    ((m.marked nodes edges merged).sides.get s).endpoints? e =
      (m.drafts.get s).endpoints? e := by
  rw [marked, PerSide.get_ofFn, Graph.endpoints?_relabel]

/-- Two assemblies in which the same is written at all elements there are. -/
theorem marked_congr {nodes' edges' : Marks}
    (hnodes : ∀ s v, v < (m.drafts.get s).nodeCount → nodes s v = nodes' s v)
    (hedges : ∀ s e, e < (m.drafts.get s).edgeCount → edges s e = edges' s e) :
    m.marked nodes edges merged = m.marked nodes' edges' merged := by
  have hside : ∀ s, (m.drafts.get s).relabel (fun v => markedNode (nodes s v))
      (fun e => markedEdge (edges s e)) = (m.drafts.get s).relabel
        (fun v => markedNode (nodes' s v)) fun e => markedEdge (edges' s e) := by
    intro s
    apply Graph.relabel_congr
    · intro v n hn
      rw [hnodes s v (Graph.lt_of_node? hn)]
    · intro e r hr
      rw [hedges s e (Graph.lt_of_edge? hr)]
  rw [marked, marked, funext hside]

private theorem set_marked {nodes' edges' : Marks} {g : Graph RawNode RawEdge}
    (hg : g = (m.marked nodes' edges' merged).sides.get s)
    (hother : nodes' s.other = nodes s.other ∧ edges' s.other = edges s.other) :
    { m.marked nodes edges merged with sides := (m.marked nodes edges merged).sides.set s g } =
      m.marked nodes' edges' merged := by
  subst hg
  obtain ⟨hnodes, hedges⟩ := hother
  cases s with
  | primary =>
    change nodes' .secondary = nodes .secondary at hnodes
    change edges' .secondary = edges .secondary at hedges
    simp only [marked, PerSide.set, PerSide.ofFn, PerSide.get, hnodes, hedges]
  | secondary =>
    change nodes' .primary = nodes .primary at hnodes
    change edges' .primary = edges .primary at hedges
    simp only [marked, PerSide.set, PerSide.ofFn, PerSide.get, hnodes, hedges]

theorem identifyNode_marked (hv : v < (m.drafts.get s).nodeCount) (id : Nat) :
    (m.marked nodes edges merged).identifyNode s v id =
      .ok (m.marked (nodes.write s v ((nodes s v).1, id)) edges merged) := by
  obtain ⟨n, hn⟩ := Graph.exists_node? hv
  rw [Assembly.identifyNode, node?_marked, hn]
  refine congrArg Except.ok (set_marked ?_ ⟨nodes.write_other s v _, rfl⟩)
  rw [marked, marked, PerSide.get_ofFn, PerSide.get_ofFn, Graph.setNode_relabel]
  apply Graph.relabel_congr
  · intro u n' hn'
    by_cases huv : u = v
    · subst huv
      cases Option.some.inj (hn.symm.trans hn')
      simp [Marks.write, markedNode]
    · simp [Marks.write, huv]
  · intro _ _ _
    rfl

theorem identifyEdge_marked (he : e < (m.drafts.get s).edgeCount) {x : Option Partner × Nat}
    {change : RawEdge → RawEdge}
    (hchange : ∀ r, change (markedEdge (edges s e) r) = markedEdge x r) :
    (m.marked nodes edges merged).identifyEdge s e change =
      .ok (m.marked nodes (edges.write s e x) merged) := by
  obtain ⟨r, hr⟩ := Graph.exists_edge? he
  rw [Assembly.identifyEdge, edge?_marked, hr]
  refine congrArg Except.ok (set_marked ?_ ⟨rfl, edges.write_other s e _⟩)
  rw [marked, marked, PerSide.get_ofFn, PerSide.get_ofFn, Graph.setEdge_relabel]
  apply Graph.relabel_congr
  · intro _ _ _
    rfl
  · intro d r' hr'
    by_cases hde : d = e
    · subst hde
      cases Option.some.inj (hr.symm.trans hr')
      simp [Marks.write, hchange]
    · simp [Marks.write, hde]

end Matching

end GraphCompare
