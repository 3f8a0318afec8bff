import GraphCompare.Text.Extend
import GraphCompare.Text.Ignorable
import GraphCompare.Text.Undrawn

/-! Characters that cannot be recognised by themselves in a text. -/
namespace GraphCompare.Text

/-- The voicing marks of halfwidth Katakana extend the character before them and still take a place
of their own. -/
def isHalfwidthMark (c : Char) : Bool := c = '\uff9e' || c = '\uff9f'

/-- What is not drawn, the space apart, what may be passed over, and what is drawn upon the
character before it. -/
def isHidden (c : Char) : Bool :=
  (c != ' ' && inRanges undrawnRanges c) || inRanges ignorableRanges c ||
    (inRanges extendRanges c && !isHalfwidthMark c)

end GraphCompare.Text
