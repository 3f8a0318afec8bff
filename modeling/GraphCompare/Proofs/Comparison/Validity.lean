import GraphCompare.Comparison.Basic
import GraphCompare.Failure
import Mathlib.Data.List.Induction
import Mathlib.Data.List.Nodup

/-! When a comparison is valid, and what is wrong with it otherwise: its records are read in a fixed
order, and each is judged by the records before it and by the nodes that its sides list. -/
namespace GraphCompare

theorem Side.forall_iff {p : Side → Prop} : (∀ s, p s) ↔ p .primary ∧ p .secondary :=
  ⟨fun h => ⟨h _, h _⟩, fun h s => by cases s <;> simp [h]⟩

/-- One entry of a comparison. -/
inductive Record
  | node (side : Side) (n : ListedNode)
  | edge (side : Side) (e : ListedEdge)
  | pairing (r : Pairing)
deriving DecidableEq, Repr

namespace Record

def isNode (s : Side) (a : Address) : Record → Bool
  | .node t n => t = s ∧ n.address = a
  | _ => false

def isEdge (s : Side) (source target : Address) : Record → Bool
  | .edge t e => t = s ∧ e.source = source ∧ e.target = target
  | _ => false

/-- The record pairs the node that has this address on a side. -/
def pairs (s : Side) (a : Address) : Record → Bool
  | .pairing r => r.ends.get s = a
  | _ => false

@[simp] theorem isNode_node {s t : Side} {a : Address} {n : ListedNode} :
    (node t n).isNode s a = true ↔ t = s ∧ n.address = a := by
  simp [isNode]

@[simp] theorem isEdge_edge {s t : Side} {a b : Address} {e : ListedEdge} :
    (edge t e).isEdge s a b = true ↔ t = s ∧ e.source = a ∧ e.target = b := by
  simp [isEdge]

@[simp] theorem pairs_pairing {s : Side} {a : Address} {r : Pairing} :
    (pairing r).pairs s a = true ↔ r.ends.get s = a := by
  simp [pairs]

/-- No record is a node or an edge of a side. -/
structure Lacks (s : Side) (l : List Record) : Prop where
  node : ∀ {a}, l.any (·.isNode s a) = false
  edge : ∀ {a b}, l.any (·.isEdge s a b) = false

theorem lacks_nil {s : Side} : Lacks s [] := ⟨rfl, rfl⟩

theorem any_isEdge_append_nodes {s : Side} {a b : Address} {earlier : List Record}
    (he : earlier.any (·.isEdge s a b) = false) (l : List ListedNode) :
    (earlier ++ l.map (node s)).any (·.isEdge s a b) = false := by
  rw [List.any_append, he, Bool.false_or]
  simp [isEdge]

/-- Behind records that fail a test, only the last ones can pass it. -/
theorem any_append_map {α : Type} {p : Record → Bool} {earlier : List Record}
    (he : earlier.any p = false) (f : α → Record) (done : List α) :
    (earlier ++ done.map f).any p = true ↔ ∃ a ∈ done, p (f a) = true := by
  simp [he]

end Record

namespace Listing
variable {s t : Side} {l : Listing} {a : Address}

/-- Nodes before edges. -/
def records (s : Side) (l : Listing) : List Record :=
  l.nodes.map (.node s) ++ l.edges.map (.edge s)

theorem lacks_records (h : t ≠ s) : Record.Lacks s (l.records t) where
  node := by simp [records, Record.isNode, h]
  edge := by simp [records, Record.isEdge, h]

theorem any_pairs_records : (l.records t).any (·.pairs s a) = false := by
  simp [records, Record.pairs]

end Listing

namespace Comparison
variable (c : Comparison)

/-- The primary side, the secondary side, and then the pairings. -/
def records : List Record :=
  c.sides.primary.records .primary ++ c.sides.secondary.records .secondary ++
    c.pairings.map .pairing

/-- A side lists a node with this address. -/
def Names (s : Side) (a : Address) : Prop := ∃ n ∈ (c.sides.get s).nodes, n.address = a

instance (s : Side) (a : Address) : Decidable (c.Names s a) :=
  inferInstanceAs (Decidable (∃ n ∈ (c.sides.get s).nodes, n.address = a))

/-- The first thing that is wrong with a record behind the earlier ones. -/
def fault? (earlier : List Record) : Record → Option Defect
  | .node s n =>
    if earlier.any (·.isNode s n.address) then some (.repeatedNode s n.address) else none
  | .edge s e =>
    if ¬ c.Names s e.source then some (.unknownEnd s e.source e.target e.source)
    else if ¬ c.Names s e.target then some (.unknownEnd s e.source e.target e.target)
    else if earlier.any (·.isEdge s e.source e.target) then
      some (.repeatedEdge s e.source e.target)
    else none
  | .pairing r =>
    if r.kind = .unmatched then some (.unmatchedPair r.ends)
    else if ¬ c.Names .primary r.ends.primary then some (.unknownPartner r.ends .primary)
    else if ¬ c.Names .secondary r.ends.secondary then some (.unknownPartner r.ends .secondary)
    else if earlier.any (·.pairs .primary r.ends.primary) then
      some (.matchedTwice .primary r.ends.primary)
    else if earlier.any (·.pairs .secondary r.ends.secondary) then
      some (.matchedTwice .secondary r.ends.secondary)
    else none

/-- No record has a fault behind those before it. -/
def Faultless (l : List Record) : Prop :=
  ∀ earlier r rest, l = earlier ++ r :: rest → c.fault? earlier r = none

/-- The record is the first one that has a fault, and the defect is its fault. -/
def FirstFault (r : Record) (d : Defect) : Prop :=
  ∃ earlier rest, c.records = earlier ++ r :: rest ∧ c.Faultless earlier ∧
    c.fault? earlier r = some d

def FirstDefect (d : Defect) : Prop := ∃ r, c.FirstFault r d

/-- What is asked of a comparison. -/
structure Valid : Prop where
  nodes_distinct : ∀ s, ((c.sides.get s).nodes.map (·.address)).Nodup
  ends_named : ∀ s, ∀ e ∈ (c.sides.get s).edges, c.Names s e.source ∧ c.Names s e.target
  edges_distinct : ∀ s, ((c.sides.get s).edges.map fun e => (e.source, e.target)).Nodup
  kind_ne : ∀ r ∈ c.pairings, r.kind ≠ .unmatched
  partners_named : ∀ r ∈ c.pairings, ∀ s, c.Names s (r.ends.get s)
  partners_distinct : ∀ s, (c.pairings.map (·.ends.get s)).Nodup

/-- The first fault of a list of records behind earlier ones. -/
def firstFault? : List Record → List Record → Option Defect
  | _, [] => none
  | earlier, r :: rest => (c.fault? earlier r).or (firstFault? (earlier ++ [r]) rest)

section scan
variable {c} {earlier l l' : List Record} {r : Record} {d : Defect}

@[simp] theorem firstFault?_nil : c.firstFault? earlier [] = none := rfl

theorem firstFault?_append :
    c.firstFault? earlier (l ++ l') =
      (c.firstFault? earlier l).or (c.firstFault? (earlier ++ l) l') := by
  induction l generalizing earlier with
  | nil => simp
  | cons r l ih => simp [firstFault?, ih, Option.or_assoc]

theorem firstFault?_concat :
    c.firstFault? earlier (l ++ [r]) =
      (c.firstFault? earlier l).or (c.fault? (earlier ++ l) r) := by
  simp [firstFault?_append, firstFault?]

theorem firstFault?_eq_none :
    c.firstFault? earlier l = none ↔
      ∀ before r rest, l = before ++ r :: rest → c.fault? (earlier ++ before) r = none := by
  constructor
  · rintro h before r rest rfl
    rw [firstFault?_append, Option.or_eq_none_iff, firstFault?, Option.or_eq_none_iff] at h
    exact h.2.1
  · intro h
    induction l using List.reverseRecOn with
    | nil => rfl
    | append_singleton l r ih =>
      rw [firstFault?_concat, Option.or_eq_none_iff]
      refine ⟨ih ?_, h l r [] rfl⟩
      rintro before r' rest rfl
      exact h before r' (rest ++ [r]) (by simp)

theorem faultless_iff : c.Faultless l ↔ c.firstFault? [] l = none := by
  rw [firstFault?_eq_none]
  rfl

theorem firstFault?_eq_some :
    c.firstFault? earlier l = some d ↔
      ∃ before r rest, l = before ++ r :: rest ∧ c.firstFault? earlier before = none ∧
        c.fault? (earlier ++ before) r = some d := by
  constructor
  · intro h
    induction l using List.reverseRecOn with
    | nil => cases h
    | append_singleton l r ih =>
      rw [firstFault?_concat] at h
      cases hl : c.firstFault? earlier l with
      | none =>
        rw [hl, Option.none_or] at h
        exact ⟨l, r, [], rfl, hl, h⟩
      | some d' =>
        rw [hl, Option.some_or] at h
        obtain ⟨before, r', rest, rfl, hbefore, hr'⟩ := ih (hl.trans h)
        exact ⟨before, r', rest ++ [r], by simp, hbefore, hr'⟩
  · rintro ⟨before, r, rest, rfl, hbefore, hr⟩
    rw [firstFault?_append, hbefore, Option.none_or, firstFault?, hr, Option.some_or]

theorem firstDefect_iff : c.FirstDefect d ↔ c.firstFault? [] c.records = some d := by
  simp only [FirstDefect, FirstFault, faultless_iff, firstFault?_eq_some, List.nil_append]
  exact exists_comm

/-- An edge between unknown nodes is refused for its source, before the pairings are read. -/
example :
    let c : Comparison :=
      { sides := ⟨{ edges := [⟨⟨1⟩, ⟨2⟩⟩] }, {}⟩, pairings := [⟨⟨⟨1⟩, ⟨2⟩⟩, .unmatched⟩] }
    c.firstFault? [] c.records = some (.unknownEnd .primary ⟨1⟩ ⟨2⟩ ⟨1⟩) := by decide

/-- Records of one kind have no fault if each passes on its own and every two are apart. -/
theorem firstFault?_map_eq_none {α : Type} {f : α → Record} {ok : α → Prop} {apart : α → α → Prop}
    (h : ∀ (done : List α) (a : α),
      c.fault? (earlier ++ done.map f) (f a) = none ↔ ok a ∧ ∀ b ∈ done, apart b a)
    (l : List α) :
    c.firstFault? earlier (l.map f) = none ↔ (∀ a ∈ l, ok a) ∧ l.Pairwise apart := by
  induction l using List.reverseRecOn with
  | nil => simp
  | append_singleton l a ih =>
    rw [List.map_append, List.map_singleton, firstFault?_concat, Option.or_eq_none_iff, ih, h]
    simp only [List.forall_mem_append, List.forall_mem_singleton, List.pairwise_append,
      List.pairwise_singleton, true_and]
    tauto

end scan

section phases
variable {c} {earlier : List Record} {s : Side}

private theorem ite_some_eq_none {p : Prop} [Decidable p] {d : Defect} {x : Option Defect} :
    (if p then some d else x) = none ↔ ¬ p ∧ x = none := by
  by_cases hp : p <;> simp [hp]

theorem fault?_node_eq_none (he : ∀ {a}, earlier.any (·.isNode s a) = false)
    (done : List ListedNode) (n : ListedNode) :
    c.fault? (earlier ++ done.map (.node s)) (.node s n) = none ↔
      ∀ m ∈ done, m.address ≠ n.address := by
  simp only [fault?, Record.any_append_map he, ite_some_eq_none]
  simp

theorem fault?_edge_eq_none (he : ∀ {a b}, earlier.any (·.isEdge s a b) = false)
    (done : List ListedEdge) (e : ListedEdge) :
    c.fault? (earlier ++ done.map (.edge s)) (.edge s e) = none ↔
      (c.Names s e.source ∧ c.Names s e.target) ∧
        ∀ d ∈ done, (d.source, d.target) ≠ (e.source, e.target) := by
  simp only [fault?, Record.any_append_map he, ite_some_eq_none, not_not]
  simp [and_assoc]

theorem fault?_pairing_eq_none (he : ∀ {s a}, earlier.any (·.pairs s a) = false)
    (done : List Pairing) (r : Pairing) :
    c.fault? (earlier ++ done.map .pairing) (.pairing r) = none ↔
      (r.kind ≠ .unmatched ∧ ∀ s, c.Names s (r.ends.get s)) ∧
        ∀ q ∈ done, ∀ s, q.ends.get s ≠ r.ends.get s := by
  simp only [fault?, Record.any_append_map he, ite_some_eq_none, not_not, Side.forall_iff]
  simp [and_assoc, PerSide.get, forall_and]

theorem firstFault?_nodes_eq_none (he : ∀ {a}, earlier.any (·.isNode s a) = false)
    (l : List ListedNode) :
    c.firstFault? earlier (l.map (.node s)) = none ↔ (l.map (·.address)).Nodup := by
  have hone : ∀ (done : List ListedNode) (n : ListedNode),
      c.fault? (earlier ++ done.map (.node s)) (.node s n) = none ↔
        True ∧ ∀ m ∈ done, m.address ≠ n.address := by
    intro done n
    rw [fault?_node_eq_none he, true_and]
  rw [firstFault?_map_eq_none hone, List.Nodup, List.pairwise_map]
  simp

theorem firstFault?_edges_eq_none (he : ∀ {a b}, earlier.any (·.isEdge s a b) = false)
    (l : List ListedEdge) :
    c.firstFault? earlier (l.map (.edge s)) = none ↔
      (∀ e ∈ l, c.Names s e.source ∧ c.Names s e.target) ∧
        (l.map fun e => (e.source, e.target)).Nodup := by
  rw [firstFault?_map_eq_none (fault?_edge_eq_none he), List.Nodup, List.pairwise_map]

theorem firstFault?_pairings_eq_none (he : ∀ {s a}, earlier.any (·.pairs s a) = false)
    (l : List Pairing) :
    c.firstFault? earlier (l.map .pairing) = none ↔
      (∀ r ∈ l, r.kind ≠ .unmatched ∧ ∀ s, c.Names s (r.ends.get s)) ∧
        ∀ s, (l.map (·.ends.get s)).Nodup := by
  rw [firstFault?_map_eq_none (fault?_pairing_eq_none he)]
  simp only [List.Nodup, List.pairwise_map, Side.forall_iff, List.pairwise_and_iff]

theorem firstFault?_listing_eq_none (h : Record.Lacks s earlier) (l : Listing) :
    c.firstFault? earlier (l.records s) = none ↔
      (l.nodes.map (·.address)).Nodup ∧
        (∀ e ∈ l.edges, c.Names s e.source ∧ c.Names s e.target) ∧
          (l.edges.map fun e => (e.source, e.target)).Nodup := by
  rw [Listing.records, firstFault?_append, Option.or_eq_none_iff,
    firstFault?_nodes_eq_none h.node,
    firstFault?_edges_eq_none (Record.any_isEdge_append_nodes h.edge l.nodes)]

theorem any_pairs_sides {a : Address} :
    (c.sides.primary.records .primary ++ c.sides.secondary.records .secondary).any
      (·.pairs s a) = false := by
  rw [List.any_append, Listing.any_pairs_records, Listing.any_pairs_records, Bool.or_false]

theorem firstFault?_records (c : Comparison) :
    c.firstFault? [] c.records =
      ((c.firstFault? [] (c.sides.primary.records .primary)).or
        (c.firstFault? (c.sides.primary.records .primary)
          (c.sides.secondary.records .secondary))).or
        (c.firstFault? (c.sides.primary.records .primary ++ c.sides.secondary.records .secondary)
          (c.pairings.map .pairing)) := by
  rw [records, firstFault?_append, firstFault?_append, List.nil_append, List.nil_append]

theorem valid_iff : c.Valid ↔ c.firstFault? [] c.records = none := by
  rw [firstFault?_records, Option.or_eq_none_iff, Option.or_eq_none_iff,
    firstFault?_listing_eq_none Record.lacks_nil,
    firstFault?_listing_eq_none (Listing.lacks_records (by decide)),
    firstFault?_pairings_eq_none any_pairs_sides]
  constructor
  · intro h
    exact ⟨⟨⟨h.nodes_distinct .primary, h.ends_named .primary, h.edges_distinct .primary⟩,
      h.nodes_distinct .secondary, h.ends_named .secondary, h.edges_distinct .secondary⟩,
      fun r hr => ⟨h.kind_ne r hr, h.partners_named r hr⟩, h.partners_distinct⟩
  · rintro ⟨⟨⟨hpn, hpe, hpd⟩, hsn, hse, hsd⟩, hr, hd⟩
    constructor
    · exact Side.forall_iff.mpr ⟨hpn, hsn⟩
    · exact Side.forall_iff.mpr ⟨hpe, hse⟩
    · exact Side.forall_iff.mpr ⟨hpd, hsd⟩
    · exact fun r h => (hr r h).1
    · exact fun r h => (hr r h).2
    · exact hd

end phases

end Comparison

end GraphCompare
