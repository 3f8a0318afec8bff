import GraphCompare.Failure

/-! Settings of a workspace, and which of them differ between two states. -/
namespace GraphCompare

/-- Browsing by neighbourhood: whether it is live, and how far it reaches along edges and against
them. -/
structure Browsing where
  enabled : Bool := false
  childDepth : UInt64 := 2
  parentDepth : UInt64 := 2
deriving DecidableEq, Repr

structure Settings where
  /-- Keeps the cameras of both sides locked to the super view. -/
  synchronizedViews : Bool := true
  /-- Revealing at least this many hidden edges is confirmed first. -/
  warningThreshold : UInt64 := 100
  automaticLayout : Bool := true
  /-- Factor on the zoom after fitting, which leaves room around the content. -/
  zoomOutFactor : Float := 0.8
  browsing : Browsing := {}

inductive SettingKey
  | synchronizedViews
  | visibilityWarningThreshold
  | automaticLayouting
  | zoomOutFactor
  | proximityBrowsing
  | proximityDepth
deriving DecidableEq, Repr

namespace SettingKey

def all : List SettingKey :=
  [.synchronizedViews, .visibilityWarningThreshold, .automaticLayouting, .zoomOutFactor,
   .proximityBrowsing, .proximityDepth]

def name : SettingKey → String
  | .synchronizedViews => "synchronizedViews"
  | .visibilityWarningThreshold => "visibilityWarningThreshold"
  | .automaticLayouting => "automaticLayouting"
  | .zoomOutFactor => "zoomOutFactor"
  | .proximityBrowsing => "proximityBrowsing"
  | .proximityDepth => "proximityDepth"

end SettingKey

namespace Settings

/-- The factor must lie strictly between 0 and 1, which a number that is none does not. -/
def isValid (s : Settings) : Bool := decide (0 < s.zoomOutFactor) && decide (s.zoomOutFactor < 1)

def validate (s : Settings) : Except Failure Unit :=
  if s.isValid then .ok () else .error (.zoomOutFactor s.zoomOutFactor)

/-- Whether two states differ at a key; floats are compared as numbers. -/
def differsAt (s t : Settings) : SettingKey → Bool
  | .synchronizedViews => s.synchronizedViews != t.synchronizedViews
  | .visibilityWarningThreshold => s.warningThreshold != t.warningThreshold
  | .automaticLayouting => s.automaticLayout != t.automaticLayout
  | .zoomOutFactor => s.zoomOutFactor != t.zoomOutFactor
  | .proximityBrowsing => s.browsing.enabled != t.browsing.enabled
  | .proximityDepth =>
    s.browsing.childDepth != t.browsing.childDepth ||
      s.browsing.parentDepth != t.browsing.parentDepth

def changedKeys (s t : Settings) : List SettingKey := SettingKey.all.filter (s.differsAt t)

end Settings

end GraphCompare
