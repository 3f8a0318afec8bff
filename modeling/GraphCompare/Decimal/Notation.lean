import GraphCompare.Decimal.Shortest
import GraphCompare.Text.Numeral

/-! Texts of floats: the shortest digits that read back, laid out by a format. -/
namespace GraphCompare.Decimal

/-- How a format lays out a float. -/
structure Layout where
  /-- Which of two equally near shortest decimals is written. -/
  tie : Tie
  /-- Whether a number whose first digit counts `10 ^ e` is written without an exponent. -/
  positional : Int → Bool
  /-- Whether a whole number is followed by a point and a zero. -/
  wholeMark : Bool

/-- Zeros after or before the digits and a point between them; `point` is the place of the point
counted from the first digit. -/
def positionalText (wholeMark : Bool) (ds : List Char) (point : Int) : List Char :=
  if point ≤ 0 then '0' :: '.' :: List.replicate (-point).toNat '0' ++ ds
  else if (ds.length : Int) ≤ point then
    ds ++ List.replicate (point.toNat - ds.length) '0' ++ (if wholeMark then ['.', '0'] else [])
  else ds.take point.toNat ++ '.' :: ds.drop point.toNat

/-- One digit, the others behind a point, and the exponent of the first digit with its sign. -/
def exponentText (ds : List Char) (e : Int) : List Char :=
  let power := (if e < 0 then '-' else '+') :: Numeral.decimal e.natAbs
  match ds with
  | [d] => d :: 'e' :: power
  | d :: rest => d :: '.' :: rest ++ 'e' :: power
  | [] => 'e' :: power

def Layout.sizeText (l : Layout) (d : Scientific) : List Char :=
  let ds := Numeral.decimal d.digits
  let point := (ds.length : Int) + d.exponent
  if l.positional (point - 1) then positionalText l.wholeMark ds point
  else exponentText ds (point - 1)

/-- The text of a float; what is no number is spelled out. -/
def Layout.text (l : Layout) (x : Float) : List Char :=
  let sign := if isNegative x then ['-'] else []
  match dyadic? x with
  | some v => sign ++ l.sizeText (v.shortest l.tie)
  | none =>
    if x.isNaN then ['N', 'a', 'N']
    else if x.isInf then sign ++ ['i', 'n', 'f']
    else sign ++ '0' :: (if l.wholeMark then ['.', '0'] else [])

/-- In messages numbers never have an exponent, and a tie goes to the larger. -/
def messageLayout : Layout := ⟨.up, fun _ => true, false⟩

/-- In JSON an exponent is used below `10 ^ -5` and from `10 ^ 16` on, and a whole number keeps
its point. -/
def jsonLayout : Layout := ⟨.toEven, fun e => decide (-5 ≤ e) && decide (e < 16), true⟩

example : messageLayout.sizeText ⟨15, -1⟩ = ['1', '.', '5'] := by decide
example : messageLayout.sizeText ⟨1, 17⟩ = '1' :: List.replicate 17 '0' := by decide
example : jsonLayout.sizeText ⟨2, 0⟩ = ['2', '.', '0'] := by decide
example : jsonLayout.sizeText ⟨1, -5⟩ = ['0', '.', '0', '0', '0', '0', '1'] := by decide
example : jsonLayout.sizeText ⟨1, -6⟩ = ['1', 'e', '-', '6'] := by decide
example : jsonLayout.sizeText ⟨123, 14⟩ = ['1', '.', '2', '3', 'e', '+', '1', '6'] := by decide

end GraphCompare.Decimal
