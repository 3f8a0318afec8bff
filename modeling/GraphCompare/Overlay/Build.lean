import GraphCompare.Overlay.Basic

/-!
From a comparison to its overlay: each side's records are placed one by one, the pairings are
taken down on both sides, and the merged graph follows from the partners.
-/
namespace GraphCompare

/-- What an element is paired with on the other side, and how the two differ. -/
structure Partner where
  index : Nat
  kind : MatchKind
deriving DecidableEq, Repr

/-- A side's graph before its elements know their partners, and where each address is in it. -/
structure Draft extends Graph ListedNode ListedEdge where
  byAddress : Directory Address
deriving DecidableEq, Repr

namespace Draft

def empty : Draft := ⟨.empty, .empty⟩

def nodeAt? (g : Draft) (a : Address) : Option NodeId := g.byAddress.get? a

/-- Appends a node and enters its address. -/
def withNode (g : Draft) (n : ListedNode) : Draft :=
  let (v, graph) := g.addNode n
  ⟨graph, g.byAddress.insert n.address v⟩

def placeNode (side : Side) (g : Draft) (n : ListedNode) : Except Defect Draft :=
  match g.nodeAt? n.address with
  | some _ => .error (.repeatedNode side n.address)
  | none => .ok (g.withNode n)

def placeEdge (side : Side) (g : Draft) (e : ListedEdge) : Except Defect Draft :=
  match g.nodeAt? e.source, g.nodeAt? e.target with
  | none, _ => .error (.unknownEnd side e.source e.target e.source)
  | some _, none => .error (.unknownEnd side e.source e.target e.target)
  | some v, some w =>
    match g.findEdge? v w with
    | some _ => .error (.repeatedEdge side e.source e.target)
    | none => .ok { g with toGraph := g.pushEdge v w e }

def ofListing (side : Side) (l : Listing) : Except Defect Draft := do
  let g ← l.nodes.foldlM (placeNode side) empty
  l.edges.foldlM (placeEdge side) g

end Draft

/-- Both sides' graphs, and for each of their nodes its partner. -/
structure Matching where
  drafts : PerSide Draft
  partners : PerSide (Array (Option Partner))

namespace Matching

def empty (drafts : PerSide Draft) : Matching :=
  ⟨drafts, drafts.map fun g => Array.replicate g.nodeCount none⟩

variable (m : Matching)

def partner? (s : Side) (v : NodeId) : Option Partner := ((m.partners.get s)[v]?).join

def pairNode (s : Side) (v : NodeId) (p : Partner) : Matching :=
  { m with partners := m.partners.set s ((m.partners.get s).setIfInBounds v (some p)) }

def pair (r : Pairing) : Except Defect Matching :=
  if r.kind = .unmatched then .error (.unmatchedPair r.ends)
  else
    match m.drafts.primary.nodeAt? r.ends.primary, m.drafts.secondary.nodeAt? r.ends.secondary with
    | none, _ => .error (.unknownPartner r.ends .primary)
    | some _, none => .error (.unknownPartner r.ends .secondary)
    | some v, some w =>
      if (m.partner? .primary v).isSome then .error (.matchedTwice .primary r.ends.primary)
      else if (m.partner? .secondary w).isSome then
        .error (.matchedTwice .secondary r.ends.secondary)
      else .ok ((m.pairNode .primary v ⟨w, r.kind⟩).pairNode .secondary w ⟨v, r.kind⟩)

/-- An edge is matched with the edge between the partners of its ends. -/
def edgePartner? (s : Side) (e : EdgeId) : Option Partner := do
  let (v, w) ← (m.drafts.get s).endpoints? e
  let p ← m.partner? s v
  let q ← m.partner? s w
  let f ← (m.drafts.get s.other).findEdge? p.index q.index
  return ⟨f, .ofEnds p.kind q.kind⟩

def edgePartners : PerSide (Array (Option Partner)) :=
  .ofFn fun s => ((m.drafts.get s).edgeIds.map (m.edgePartner? s)).toArray

end Matching

namespace Overlay

/-- Identities of secondary elements: the partner's index, or the next free one from `next` on. -/
def numbering (next : Nat) : List (Option Partner) → List Nat
  | [] => []
  | some p :: rest => p.index :: numbering next rest
  | none :: rest => next :: numbering (next + 1) rest

/-- Primary elements are identified by their own index, secondary ones after all of these. -/
def identityTable (partners : PerSide (Array (Option Partner))) : PerSide (Array Nat) :=
  ⟨Array.range partners.primary.size,
    (numbering partners.primary.size partners.secondary.toList).toArray⟩

def ofPrimary (i : Nat) (p : Option Partner) : Merged :=
  ⟨⟨some i, p.map (·.index)⟩, (p.map (·.kind)).getD .unmatched⟩

def ofSecondary? (i : Nat) : Option Partner → Option Merged
  | some _ => none
  | none => some ⟨⟨none, some i⟩, .unmatched⟩

/-- One node for each primary one, in order, then one for each secondary one left over. -/
def mergedNodes (partners : PerSide (Array (Option Partner))) : List Merged :=
  partners.primary.toList.mapIdx ofPrimary ++
    (partners.secondary.toList.mapIdx ofSecondary?).filterMap id

end Overlay

namespace Matching
variable (m : Matching)

def kindOf (p : Option Partner) : MatchKind := (p.map (·.kind)).getD .unmatched

def sideGraph (s : Side) (l : Listing) (edgePartners : Array (Option Partner))
    (nodeIds edgeIds : Array Nat) : SideGraph where
  side := s
  name := l.name
  imageName := l.imageName
  address := l.address
  graph :=
    (m.drafts.get s).relabel
      (fun v n =>
        let p := m.partner? s v
        ⟨n.address, n.label, kindOf p, p.map (·.index), (nodeIds[v]?).getD 0⟩)
      (fun e r =>
        let p := (edgePartners[e]?).join
        ⟨r.source, r.target, kindOf p, p.map (·.index), (edgeIds[e]?).getD 0⟩)
  byAddress := (m.drafts.get s).byAddress

/-- An edge of a side, between the identities of its ends. -/
def identifiedArc (nodeIds : Array Nat) (a : Arc ListedEdge) (b : Merged) : Arc Merged :=
  ⟨(nodeIds[a.source]?).getD 0, (nodeIds[a.target]?).getD 0, b⟩

/-- All primary edges in order, then the secondary ones left over. -/
def mergedArcs (edgePartners : PerSide (Array (Option Partner))) : List (Arc Merged) :=
  let nodeIds := Overlay.identityTable m.partners
  m.drafts.primary.arcs.toList.mapIdx
      (fun i a => identifiedArc nodeIds.primary a
        (Overlay.ofPrimary i (edgePartners.primary[i]?).join)) ++
    (m.drafts.secondary.arcs.toList.mapIdx fun i a =>
      (Overlay.ofSecondary? i (edgePartners.secondary[i]?).join).map
        (identifiedArc nodeIds.secondary a)).filterMap id

def overlay (c : Comparison) : Overlay :=
  let edgePartners := m.edgePartners
  let nodeIds := Overlay.identityTable m.partners
  let edgeIds := Overlay.identityTable edgePartners
  { flavor := c.flavor
    sides := .ofFn fun s =>
      m.sideGraph s (c.sides.get s) (edgePartners.get s) (nodeIds.get s) (edgeIds.get s)
    merged := Graph.ofLists (Overlay.mergedNodes m.partners) (m.mergedArcs edgePartners) }

end Matching

/-- The matching a comparison describes, or its first defect: primary records, then secondary
ones, then the pairings. -/
def Comparison.matching (c : Comparison) : Except Defect Matching := do
  let primary ← Draft.ofListing .primary c.sides.primary
  let secondary ← Draft.ofListing .secondary c.sides.secondary
  c.pairings.foldlM Matching.pair (Matching.empty ⟨primary, secondary⟩)

def Overlay.ofComparison (c : Comparison) : Except Failure Overlay :=
  match c.matching with
  | .ok m => .ok (m.overlay c)
  | .error d => .error (.invalidComparison d)

end GraphCompare
