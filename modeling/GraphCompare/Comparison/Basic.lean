import GraphCompare.Address
import GraphCompare.View

/-! A comparison as it is handed over: what each side lists, and which nodes were paired. -/
namespace GraphCompare

/-- What the graphs are of, which decides how the views are titled. -/
inductive Flavor
  | flowGraph
  | callGraph
deriving DecidableEq, Repr

def Flavor.name : Flavor → String
  | .flowGraph => "flowGraph"
  | .callGraph => "callGraph"

structure ListedNode where
  address : Address
  label : String
deriving DecidableEq, Repr

structure ListedEdge where
  source : Address
  target : Address
deriving DecidableEq, Repr

/-- One side's graph: flow graphs have a function name and address, call graphs an image name. -/
structure Listing where
  name : Option String := none
  imageName : Option String := none
  address : Option Address := none
  nodes : List ListedNode := []
  edges : List ListedEdge := []
deriving DecidableEq, Repr

/-- A primary and a secondary node that correspond, and how they differ. -/
structure Pairing where
  ends : PerSide Address
  kind : MatchKind
deriving DecidableEq, Repr

structure Comparison where
  flavor : Flavor := .flowGraph
  sides : PerSide Listing
  pairings : List Pairing := []
deriving DecidableEq, Repr

namespace Listing

def addNode (l : Listing) (address : Address) (label : String) : Listing :=
  { l with nodes := l.nodes ++ [⟨address, label⟩] }

def addEdge (l : Listing) (source target : Address) : Listing :=
  { l with edges := l.edges ++ [⟨source, target⟩] }

end Listing

end GraphCompare
