import GraphCompare.Address
import GraphCompare.Decimal.Notation
import GraphCompare.Text.Quoted
import GraphCompare.View

/-! What can go wrong, by cause, and the message for each cause. -/
namespace GraphCompare

/-- What makes a comparison invalid: a fault of one of its records. -/
inductive Defect
  | repeatedNode (side : Side) (address : Address)
  | unknownEnd (side : Side) (source target missing : Address)
  | repeatedEdge (side : Side) (source target : Address)
  | unmatchedPair (ends : PerSide Address)
  | unknownPartner (ends : PerSide Address) (side : Side)
  | matchedTwice (side : Side) (address : Address)
deriving DecidableEq, Repr

inductive Failure
  | unknownAddress (side : Side) (address : Address)
  | unknownEdge (side : Side) (source target : Address)
  | unknownElement (view : View) (kind : ElementKind) (index : Nat)
  | invalidComparison (defect : Defect)
  | zoomOutFactor (factor : Float)
  | layout (reason : String)
  | malformedJson

/-- An index beyond 32 bits. -/
structure IndexOverflow where
  kind : ElementKind
deriving DecidableEq, Repr

/-- A text that is no address. -/
structure AddressError where
  text : String
deriving DecidableEq, Repr

def unknownAddressText (side : Side) (address : Address) : String :=
  s!"No node at address {address} on the {side} side"

namespace Defect

def message : Defect → String
  | .repeatedNode side a => s!"duplicate {side} node address {a}"
  | .unknownEnd side s t a => s!"{side} edge {s} -> {t} references unknown node {a}"
  | .repeatedEdge side s t => s!"duplicate {side} edge {s} -> {t}"
  | .unmatchedPair ends =>
    let p := ends.primary
    let s := ends.secondary
    s!"match {p} <-> {s} cannot have kind `unmatched`"
  | .unknownPartner ends side =>
    let p := ends.primary
    let s := ends.secondary
    let reason := unknownAddressText side (ends.get side)
    s!"match {p} <-> {s}: {reason}"
  | .matchedTwice side a => s!"{side} node {a} is matched more than once"

end Defect

namespace Failure

def message : Failure → String
  | .unknownAddress side a => unknownAddressText side a
  | .unknownEdge side s t => s!"No edge {s} -> {t} on the {side} side"
  | .unknownElement view kind index =>
    let what := kind.name
    s!"Unknown {what} index {index} in the {view} view"
  | .invalidComparison d =>
    let reason := d.message
    s!"Invalid diff dataset: {reason}"
  | .zoomOutFactor x =>
    let factor := String.ofList (Decimal.messageLayout.text x)
    s!"Invalid graph settings: zoomOutFactor must lie strictly between 0 and 1, got {factor}"
  | .layout reason => s!"Graph layout failed: {reason}"
  | .malformedJson => "Malformed JSON"

end Failure

def IndexOverflow.message (e : IndexOverflow) : String :=
  match e.kind with
  | .node => "NodeIx overflow"
  | .edge => "EdgeIx overflow"

def AddressError.message (e : AddressError) : String :=
  "invalid address literal: " ++ String.ofList (Text.messageQuote e.text.toList)

/-- Node and edge indices are numbers of 32 bits. -/
def ElementKind.index (kind : ElementKind) (n : Nat) : Except IndexOverflow Nat :=
  if n < UInt32.size then .ok n else .error ⟨kind⟩

def Address.parse (s : String) : Except AddressError Address :=
  match Address.ofText? s with
  | some a => .ok a
  | none => .error ⟨s⟩

end GraphCompare
