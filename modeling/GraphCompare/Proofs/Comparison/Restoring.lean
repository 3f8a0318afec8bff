import GraphCompare.Comparison.Json
import GraphCompare.Proofs.Json.Restoring

/-! Comparisons are restored from the JSON that they are written as, be it a text or a value. -/
namespace GraphCompare
open Doc (Restores)

theorem restores_flavor (f : Flavor) : Restores Flavor.toJson Flavor.ofDoc? f := by
  refine ⟨trivial, ?_⟩
  cases f <;> decide

theorem restores_matchKind (k : MatchKind) : Restores MatchKind.toJson MatchKind.ofDoc? k := by
  refine ⟨trivial, ?_⟩
  cases k <;> decide

theorem restores_address (a : Address) : Restores Address.toJson Address.ofDoc? a :=
  ⟨Json.Number.legible_unsigned a.value, rfl⟩

theorem restores_listedNode (n : ListedNode) : Restores ListedNode.toJson ListedNode.ofDoc? n := by
  have haddress := restores_address n.address
  have hfields : n.toJson.toDoc.fields? ["address", "label"] =
      some [("address", n.address.toJson.toDoc), ("label", .string (some n.label))] :=
    Doc.fields?_toDoc rfl (by decide)
  refine ⟨⟨haddress.legible, trivial, trivial⟩, ?_⟩
  rw [ListedNode.ofDoc?, hfields]
  simp [Doc.required, Doc.optional, List.lookup_cons, haddress.read_toDoc, Doc.string?]

theorem restores_listedEdge (e : ListedEdge) : Restores ListedEdge.toJson ListedEdge.ofDoc? e := by
  have hsource := restores_address e.source
  have htarget := restores_address e.target
  have hfields : e.toJson.toDoc.fields? ["source", "target"] =
      some [("source", e.source.toJson.toDoc), ("target", e.target.toJson.toDoc)] :=
    Doc.fields?_toDoc rfl (by decide)
  refine ⟨⟨hsource.legible, htarget.legible, trivial⟩, ?_⟩
  rw [ListedEdge.ofDoc?, hfields]
  simp [Doc.required, List.lookup_cons, hsource.read_toDoc, htarget.read_toDoc]

theorem restores_pairing (p : Pairing) : Restores Pairing.toJson Pairing.ofDoc? p := by
  have hprimary := restores_address p.ends.primary
  have hsecondary := restores_address p.ends.secondary
  have hkind := restores_matchKind p.kind
  have hfields : p.toJson.toDoc.fields? ["primary", "secondary", "kind"] =
      some [("primary", p.ends.primary.toJson.toDoc), ("secondary", p.ends.secondary.toJson.toDoc),
        ("kind", p.kind.toJson.toDoc)] :=
    Doc.fields?_toDoc rfl (by decide)
  refine ⟨⟨hprimary.legible, hsecondary.legible, hkind.legible, trivial⟩, ?_⟩
  rw [Pairing.ofDoc?, hfields]
  simp [Doc.required, List.lookup_cons, hprimary.read_toDoc, hsecondary.read_toDoc,
    hkind.read_toDoc]

theorem restores_listing (l : Listing) : Restores Listing.toJson Listing.ofDoc? l := by
  have hname := Doc.restores_option Doc.restores_string rfl l.name
  have himage := Doc.restores_option Doc.restores_string rfl l.imageName
  have haddress := Doc.restores_option restores_address rfl l.address
  have hnodes := Doc.restores_list restores_listedNode l.nodes
  have hedges := Doc.restores_list restores_listedEdge l.edges
  have hfields : l.toJson.toDoc.fields? ["name", "imageName", "address", "nodes", "edges"] =
      some [("name", (Json.ofOption .string l.name).toDoc),
        ("imageName", (Json.ofOption .string l.imageName).toDoc),
        ("address", (Json.ofOption Address.toJson l.address).toDoc),
        ("nodes", (Json.array (l.nodes.map ListedNode.toJson)).toDoc),
        ("edges", (Json.array (l.edges.map ListedEdge.toJson)).toDoc)] :=
    Doc.fields?_toDoc rfl (by decide)
  refine ⟨⟨hname.legible, himage.legible, haddress.legible, hnodes.legible, hedges.legible,
    trivial⟩, ?_⟩
  rw [Listing.ofDoc?, hfields]
  simp [Doc.optional, List.lookup_cons, hname.read_toDoc, himage.read_toDoc, haddress.read_toDoc,
    hnodes.read_toDoc, hedges.read_toDoc]

theorem restores_comparison (c : Comparison) :
    Restores Comparison.toJson Comparison.ofDoc? c := by
  have hflavor := restores_flavor c.flavor
  have hprimary := restores_listing c.sides.primary
  have hsecondary := restores_listing c.sides.secondary
  have hpairings := Doc.restores_list restores_pairing c.pairings
  have hfields : c.toJson.toDoc.fields? ["flavor", "primary", "secondary", "matches"] =
      some [("flavor", c.flavor.toJson.toDoc), ("primary", c.sides.primary.toJson.toDoc),
        ("secondary", c.sides.secondary.toJson.toDoc),
        ("matches", (Json.array (c.pairings.map Pairing.toJson)).toDoc)] :=
    Doc.fields?_toDoc rfl (by decide)
  refine ⟨⟨hflavor.legible, hprimary.legible, hsecondary.legible, hpairings.legible, trivial⟩, ?_⟩
  rw [Comparison.ofDoc?, hfields]
  simp [Doc.required, Doc.optional, List.lookup_cons, hflavor.read_toDoc, hprimary.read_toDoc,
    hsecondary.read_toDoc, hpairings.read_toDoc]

/-- A comparison comes back from its text and from its value. -/
theorem Comparison.restored (c : Comparison) :
    ofText? c.render = some c ∧ ofJson? c.toJson = some c := by
  have hrestores := restores_comparison c
  exact ⟨hrestores.read_render, hrestores.read_toDoc⟩

end GraphCompare
