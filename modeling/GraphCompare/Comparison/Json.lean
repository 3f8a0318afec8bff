import GraphCompare.Comparison.Basic
import GraphCompare.Json.Parser
import GraphCompare.Json.Printer

/-! Comparisons as JSON. Every field is written; most may be left out when read. -/
namespace GraphCompare

namespace Flavor

def toJson (f : Flavor) : Json := .string f.name

def ofDoc? : Doc → Option Flavor :=
  Doc.choice? ([.flowGraph, .callGraph].map fun f => (f.name, f))

end Flavor

namespace MatchKind

def toJson (k : MatchKind) : Json := .string k.name

def ofDoc? : Doc → Option MatchKind :=
  Doc.choice?
    ([.identical, .instructionsOnlyChanged, .structurallyChanged, .unmatched].map
      fun k => (k.name, k))

end MatchKind

namespace ListedNode

def toJson (n : ListedNode) : Json :=
  .object [("address", n.address.toJson), ("label", .string n.label)]

def ofDoc? (d : Doc) : Option ListedNode := do
  let fields ← d.fields? ["address", "label"]
  let address ← Doc.required "address" Address.ofDoc? fields
  let label ← Doc.optional "label" "" Doc.string? fields
  return ⟨address, label⟩

end ListedNode

namespace ListedEdge

def toJson (e : ListedEdge) : Json :=
  .object [("source", e.source.toJson), ("target", e.target.toJson)]

def ofDoc? (d : Doc) : Option ListedEdge := do
  let fields ← d.fields? ["source", "target"]
  let source ← Doc.required "source" Address.ofDoc? fields
  let target ← Doc.required "target" Address.ofDoc? fields
  return ⟨source, target⟩

end ListedEdge

namespace Pairing

def toJson (p : Pairing) : Json :=
  .object
    [("primary", p.ends.primary.toJson), ("secondary", p.ends.secondary.toJson),
     ("kind", p.kind.toJson)]

def ofDoc? (d : Doc) : Option Pairing := do
  let fields ← d.fields? ["primary", "secondary", "kind"]
  let primary ← Doc.required "primary" Address.ofDoc? fields
  let secondary ← Doc.required "secondary" Address.ofDoc? fields
  let kind ← Doc.required "kind" MatchKind.ofDoc? fields
  return ⟨⟨primary, secondary⟩, kind⟩

end Pairing

namespace Listing

def toJson (l : Listing) : Json :=
  .object
    [("name", .ofOption .string l.name), ("imageName", .ofOption .string l.imageName),
     ("address", .ofOption Address.toJson l.address),
     ("nodes", .array (l.nodes.map ListedNode.toJson)),
     ("edges", .array (l.edges.map ListedEdge.toJson))]

def ofDoc? (d : Doc) : Option Listing := do
  let fields ← d.fields? ["name", "imageName", "address", "nodes", "edges"]
  let name ← Doc.optional "name" none (Doc.option? Doc.string?) fields
  let imageName ← Doc.optional "imageName" none (Doc.option? Doc.string?) fields
  let address ← Doc.optional "address" none (Doc.option? Address.ofDoc?) fields
  let nodes ← Doc.optional "nodes" [] (Doc.list? ListedNode.ofDoc?) fields
  let edges ← Doc.optional "edges" [] (Doc.list? ListedEdge.ofDoc?) fields
  return ⟨name, imageName, address, nodes, edges⟩

end Listing

namespace Comparison

def toJson (c : Comparison) : Json :=
  .object
    [("flavor", c.flavor.toJson), ("primary", c.sides.primary.toJson),
     ("secondary", c.sides.secondary.toJson), ("matches", .array (c.pairings.map Pairing.toJson))]

def ofDoc? (d : Doc) : Option Comparison := do
  let fields ← d.fields? ["flavor", "primary", "secondary", "matches"]
  let flavor ← Doc.optional "flavor" .flowGraph Flavor.ofDoc? fields
  let primary ← Doc.required "primary" Listing.ofDoc? fields
  let secondary ← Doc.required "secondary" Listing.ofDoc? fields
  let pairings ← Doc.optional "matches" [] (Doc.list? Pairing.ofDoc?) fields
  return ⟨flavor, ⟨primary, secondary⟩, pairings⟩

def ofText? (text : String) : Option Comparison := (Doc.ofText? text).bind ofDoc?

def ofJson? (j : Json) : Option Comparison := ofDoc? j.toDoc

def render (c : Comparison) : String := c.toJson.render

end Comparison

end GraphCompare
