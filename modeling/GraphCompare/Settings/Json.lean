import GraphCompare.Json.Parser
import GraphCompare.Json.Printer
import GraphCompare.Settings.Basic

/-! Settings as JSON, and partial settings that override some fields. -/
namespace GraphCompare

namespace Browsing

def toJson (b : Browsing) : Json :=
  .object
    [("enabled", .bool b.enabled), ("childDepth", .ofCount b.childDepth),
     ("parentDepth", .ofCount b.parentDepth)]

def ofDoc? (d : Doc) : Option Browsing := do
  let default : Browsing := {}
  let fields ← d.fields? ["enabled", "childDepth", "parentDepth"]
  let enabled ← Doc.optional "enabled" default.enabled Doc.bool? fields
  let childDepth ← Doc.optional "childDepth" default.childDepth Doc.count? fields
  let parentDepth ← Doc.optional "parentDepth" default.parentDepth Doc.count? fields
  return ⟨enabled, childDepth, parentDepth⟩

end Browsing

namespace Settings

def toJson (s : Settings) : Json :=
  .object
    [("synchronizedViews", .bool s.synchronizedViews),
     ("visibilityWarningThreshold", .ofCount s.warningThreshold),
     ("automaticLayouting", .bool s.automaticLayout),
     ("zoomOutFactor", .ofFloat s.zoomOutFactor), ("proximity", s.browsing.toJson)]

def ofDoc? (d : Doc) : Option Settings := do
  let default : Settings := {}
  let fields ← d.fields?
    ["synchronizedViews", "visibilityWarningThreshold", "automaticLayouting", "zoomOutFactor",
     "proximity"]
  let synchronizedViews ←
    Doc.optional "synchronizedViews" default.synchronizedViews Doc.bool? fields
  let warningThreshold ←
    Doc.optional "visibilityWarningThreshold" default.warningThreshold Doc.count? fields
  let automaticLayout ← Doc.optional "automaticLayouting" default.automaticLayout Doc.bool? fields
  let zoomOutFactor ← Doc.optional "zoomOutFactor" default.zoomOutFactor Doc.float? fields
  let browsing ← Doc.optional "proximity" default.browsing Browsing.ofDoc? fields
  return ⟨synchronizedViews, warningThreshold, automaticLayout, zoomOutFactor, browsing⟩

/-- Settings that decode must also be valid. -/
def checked (s? : Option Settings) : Except Failure Settings :=
  match s? with
  | none => .error .malformedJson
  | some s => s.validate.map fun _ => s

def ofText (text : String) : Except Failure Settings := checked ((Doc.ofText? text).bind ofDoc?)

/-- Merges overrides into the settings; gives also the keys whose values changed. -/
def override (s : Settings) (overrides : Json) : Except Failure (List SettingKey × Settings) :=
  (checked (ofDoc? (s.toJson.merge overrides).toDoc)).map fun t => (s.changedKeys t, t)

end Settings

end GraphCompare
