import GraphCompare.Json.Value
import GraphCompare.Decimal.Notation
import GraphCompare.Text.Quoted

/-! Compact JSON text: no blanks, members in their order. -/
namespace GraphCompare.Json

def Number.text : Number → List Char
  | .unsigned n => Numeral.decimal n.toNat
  | .negative n => '-' :: Numeral.decimal n.toNat
  | .real x => if x.isFinite then Decimal.jsonLayout.text x else ['n', 'u', 'l', 'l']

mutual

def text : Json → List Char
  | .null => ['n', 'u', 'l', 'l']
  | .bool true => ['t', 'r', 'u', 'e']
  | .bool false => ['f', 'a', 'l', 's', 'e']
  | .number n => n.text
  | .string s => Text.jsonQuote s.toList
  | .array [] => ['[', ']']
  | .array (j :: rest) => '[' :: j.text ++ itemsText rest
  | .object [] => ['\x7b', '\x7d']
  | .object ((k, j) :: rest) =>
    '\x7b' :: Text.jsonQuote k.toList ++ ':' :: j.text ++ membersText rest

/-- The items after the first, with the bracket that closes them. -/
def itemsText : List Json → List Char
  | [] => [']']
  | j :: rest => ',' :: j.text ++ itemsText rest

/-- The members after the first, with the brace that closes them. -/
def membersText : List (String × Json) → List Char
  | [] => ['\x7d']
  | (k, j) :: rest => ',' :: Text.jsonQuote k.toList ++ ':' :: j.text ++ membersText rest

end

def render (j : Json) : String := String.ofList j.text

end GraphCompare.Json
