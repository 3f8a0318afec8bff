import GraphCompare.Json.Value
import GraphCompare.Text.Numeral

/-! Number literals: their grammar, and the value read from one. -/
namespace GraphCompare.Json

/-- A number literal in parts; each list of digits is as long as it was written. -/
structure Literal where
  negative : Bool
  whole : List Nat
  fraction : List Nat
  power : Option (Bool × List Nat)
deriving DecidableEq, Repr

namespace Literal

/-- Digits on the left, the characters after them on the right. -/
def spanDigits (cs : List Char) : List Nat × List Char :=
  ((cs.takeWhile Char.isDigit).map (fun c => c.toNat - 48), cs.dropWhile Char.isDigit)

/-- A single zero, or digits that do not start with a zero. -/
def wholeOk : List Nat → Bool
  | [] => false
  | [_] => true
  | d :: _ => d != 0

/-- The part behind the point, if there is a point; it needs a digit. -/
def fraction? : List Char → Option (List Nat × List Char)
  | '.' :: cs =>
    let (ds, rest) := spanDigits cs
    if ds.isEmpty then none else some (ds, rest)
  | cs => some ([], cs)

def powerSign : List Char → Bool × List Char
  | '-' :: cs => (true, cs)
  | '+' :: cs => (false, cs)
  | cs => (false, cs)

/-- The exponent, if there is one, up to the end of the literal. -/
def power? : List Char → Option (Option (Bool × List Nat))
  | [] => some none
  | c :: cs =>
    if c = 'e' ∨ c = 'E' then
      let (sign, cs) := powerSign cs
      let (ds, rest) := spanDigits cs
      if ds.isEmpty ∨ !rest.isEmpty then none else some (some (sign, ds))
    else none

def sign : List Char → Bool × List Char
  | '-' :: cs => (true, cs)
  | cs => (false, cs)

def parse? (cs : List Char) : Option Literal := do
  let (negative, cs) := sign cs
  let (whole, cs) := spanDigits cs
  guard (wholeOk whole)
  let (fraction, cs) ← fraction? cs
  let power ← power? cs
  return ⟨negative, whole, fraction, power⟩

/-- Digits are taken into a significand of 64 bits from the left; from the first that does not
fit on, they are left over. -/
def gather (significand : Nat) : List Nat → Nat × List Nat
  | [] => (significand, [])
  | d :: ds =>
    if significand * 10 + d < UInt64.size then gather (significand * 10 + d) ds
    else (significand, d :: ds)

/-- `x * 10 ^ e` in at most one step per 308 places, `none` when it is too large. -/
def scale : Nat → Float → Int → Option Float
  | 0, x, _ => some x
  | fuel + 1, x, e =>
    if e.natAbs ≤ 308 then
      let p := Float.ofScientific 1 false e.natAbs
      if 0 ≤ e then
        let y := x * p
        if y.isInf then none else some y
      else some (x / p)
    else if x == 0 then some x
    else if 0 ≤ e then none
    else scale fuel (x / 1e308) (e + 308)

def signed (negative : Bool) (x : Float) : Float := if negative then -x else x

/-- The float nearest to the significand, scaled. -/
def real? (negative : Bool) (significand : Nat) (e : Int) : Option Number :=
  (scale (e.natAbs / 308 + 1) significand.toUInt64.toFloat e).map fun x => .real (signed negative x)

/-- Exponents from `2 ^ 31` on are taken for infinite. -/
def powerLimit : Nat := UInt32.size / 2

/-- The value of a literal. Digits that do not fit into the significand count as a power of ten
before the point and are dropped behind it. -/
def value? (l : Literal) : Option Number :=
  let (n, beyond) := gather 0 l.whole
  if beyond.isEmpty ∧ l.fraction.isEmpty ∧ l.power.isNone then
    if !l.negative then some (.unsigned n.toUInt64)
    else if n = 0 ∨ UInt64.size / 2 < n then some (.real (signed true n.toUInt64.toFloat))
    else some (.negative n.toUInt64)
  else
    let (m, dropped) := gather n l.fraction
    let e : Int := beyond.length - (l.fraction.length - dropped.length : Nat)
    match l.power with
    | none => real? l.negative m e
    | some (down, ds) =>
      let p := Numeral.value 10 ds
      if powerLimit ≤ p then
        if m ≠ 0 ∧ !down then none else some (.real (signed l.negative 0))
      else real? l.negative m (if down then e - p else e + p)

end Literal

end GraphCompare.Json
