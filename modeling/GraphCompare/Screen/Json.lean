import GraphCompare.Json.Decode
import GraphCompare.Json.Parser
import GraphCompare.Json.Printer
import GraphCompare.Screen.Viewport

/-! Cameras as JSON: points and sizes are pairs of numbers, and nothing may be left out. -/
namespace GraphCompare

/-- Exactly two numbers. -/
def Doc.floatPair? : Doc → Option (Float × Float)
  | .array [x, y] => do
    let x ← x.float?
    let y ← y.float?
    return (x, y)
  | _ => none

namespace Point

def toJson (p : Point Float) : Json := .array [.ofFloat p.x, .ofFloat p.y]

def ofDoc? (d : Doc) : Option (Point Float) := d.floatPair?.map fun p => ⟨p.1, p.2⟩

end Point

namespace Size

def toJson (s : Size Float) : Json := .array [.ofFloat s.width, .ofFloat s.height]

def ofDoc? (d : Doc) : Option (Size Float) := d.floatPair?.map fun p => ⟨p.1, p.2⟩

end Size

namespace Rect

def toJson (r : Rect Float) : Json :=
  .object [("origin", r.origin.toJson), ("size", r.size.toJson)]

def ofDoc? (d : Doc) : Option (Rect Float) := do
  let fields ← d.fields? ["origin", "size"]
  let origin ← Doc.required "origin" Point.ofDoc? fields
  let size ← Doc.required "size" Size.ofDoc? fields
  return ⟨origin, size⟩

end Rect

namespace Viewport

def toJson (v : Viewport Float) : Json :=
  .object
    [("world", v.world.toJson), ("zoom", .ofFloat v.zoom), ("origin", v.origin.toJson),
     ("size", v.size.toJson)]

def ofDoc? (d : Doc) : Option (Viewport Float) := do
  let fields ← d.fields? ["world", "zoom", "origin", "size"]
  let world ← Doc.required "world" Rect.ofDoc? fields
  let zoom ← Doc.required "zoom" Doc.float? fields
  let origin ← Doc.required "origin" Point.ofDoc? fields
  let size ← Doc.required "size" Size.ofDoc? fields
  return ⟨world, zoom, origin, size⟩

def ofText? (text : String) : Option (Viewport Float) := (Doc.ofText? text).bind ofDoc?

def render (v : Viewport Float) : String := v.toJson.render

end Viewport

end GraphCompare
