import GraphCompare.Overlay.Basic

/-! Captions of the views: image names for call graphs, addresses and names for flow graphs. -/
namespace GraphCompare.Overlay
variable (o : Overlay)

def imageName (s : Side) : String := (o.side s).imageName.getD ""

def functionName (s : Side) : String := (o.side s).name.getD ""

def spacer : String := "   "

/-- An address with the spacer behind it, nothing for no address. -/
def leadingAddress (s : Side) : String :=
  match (o.side s).address with
  | some a => a.text ++ spacer
  | none => ""

/-- On the primary side the address leads, on the secondary side the name does. -/
def functionCaption (s : Side) : String :=
  match s, (o.side s).address with
  | .primary, some _ => o.leadingAddress .primary ++ o.functionName .primary
  | .secondary, some a => o.functionName .secondary ++ spacer ++ a.text
  | _, none => ""

def bothFunctionsCaption : String :=
  let divider :=
    if (o.side .primary).address.isSome && (o.side .secondary).address.isSome then
      spacer ++ "vs" ++ spacer
    else ""
  o.leadingAddress .primary ++ o.functionName .primary ++ divider ++
    o.leadingAddress .secondary ++ o.functionName .secondary

/-- Empty where there is nothing to show. -/
def caption (v : View) : String :=
  match o.flavor, v with
  | _, .super => ""
  | .callGraph, .primary => o.imageName .primary
  | .callGraph, .secondary => o.imageName .secondary
  | .callGraph, .combined => o.imageName .primary ++ " vs " ++ o.imageName .secondary
  | .flowGraph, .primary => o.functionCaption .primary
  | .flowGraph, .secondary => o.functionCaption .secondary
  | .flowGraph, .combined => o.bothFunctionsCaption

end GraphCompare.Overlay
