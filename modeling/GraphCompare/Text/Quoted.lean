import GraphCompare.Text.Hidden
import GraphCompare.Text.Numeral

/-! Texts between quotes: the spelling of a JSON string, and the spelling used in messages. -/
namespace GraphCompare.Text

/-- Quote, backslash and the first 32 code points are escaped, all else stands for itself. -/
def jsonEscape (c : Char) : List Char :=
  if c = '"' then ['\\', '"']
  else if c = '\\' then ['\\', '\\']
  else if c = '\x08' then ['\\', 'b']
  else if c = '\t' then ['\\', 't']
  else if c = '\n' then ['\\', 'n']
  else if c = '\x0c' then ['\\', 'f']
  else if c = '\r' then ['\\', 'r']
  else if c.toNat < 0x20 then '\\' :: 'u' :: (Numeral.fixed 16 4 c.toNat).map Numeral.lowerChar
  else [c]

def jsonQuote (cs : List Char) : List Char := '"' :: cs.flatMap jsonEscape ++ ['"']

/-- Quote and backslash are escaped, hidden characters are named or numbered. -/
def messageEscape (c : Char) : List Char :=
  if c = '"' then ['\\', '"']
  else if c = '\\' then ['\\', '\\']
  else if c = '\n' then ['\\', 'n']
  else if c = '\r' then ['\\', 'r']
  else if c = '\t' then ['\\', 't']
  else if c.toNat = 0 then ['\\', '0']
  else if isHidden c then '\\' :: 'u' :: '\x7b' :: Numeral.hex c.toNat ++ ['\x7d']
  else [c]

def messageQuote (cs : List Char) : List Char := '"' :: cs.flatMap messageEscape ++ ['"']

end GraphCompare.Text
