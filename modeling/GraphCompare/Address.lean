import GraphCompare.Json.Decode
import GraphCompare.Text.Blank
import GraphCompare.Text.Numeral

/-! Program addresses and their texts. -/
namespace GraphCompare

structure Address where
  value : UInt64
deriving DecidableEq, Repr, Inhabited

namespace Address

/-- Eight digits are enough for 32 bits, sixteen for the rest. -/
def width (a : Address) : Nat := if a.value.toNat < UInt32.size then 8 else 16

/-- Upper case digits in base 16, padded to the width of the address. -/
def chars (a : Address) : List Char :=
  (Numeral.fixed 16 a.width a.value.toNat).map Numeral.upperChar

def text (a : Address) : String := String.ofList a.chars

instance : ToString Address := ⟨text⟩

/-- Base 16 behind a mark, base 10 without one. -/
def splitBase : List Char → Nat × List Char
  | '0' :: 'x' :: cs => (16, cs)
  | '0' :: 'X' :: cs => (16, cs)
  | cs => (10, cs)

def dropPlus : List Char → List Char
  | '+' :: cs => cs
  | cs => cs

/-- Blanks around the numeral and one plus before its digits are allowed, values from `2 ^ 64` on
are refused. -/
def ofChars? (cs : List Char) : Option Address := do
  let (base, cs) := splitBase (Text.trim cs)
  let n ← Numeral.read? base (dropPlus cs)
  if n < UInt64.size then some ⟨n.toUInt64⟩ else none

def ofText? (s : String) : Option Address := ofChars? s.toList

def toJson (a : Address) : Json := .ofCount a.value

/-- A whole number, or a string in one of the texts of an address. -/
def ofDoc? : Doc → Option Address
  | .number (some (.unsigned n)) => some ⟨n⟩
  | .string (some s) => ofText? s
  | _ => none

end Address

end GraphCompare
