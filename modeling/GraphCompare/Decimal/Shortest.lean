/-! The shortest decimal that reads back as a given binary number, by exact arithmetic. -/
namespace GraphCompare.Decimal

/-- The positive number `mantissa * 2 ^ exponent`, as one of a grid of binary numbers.
`closeBelow` says that the neighbour below is at half the distance of the one above. -/
structure Dyadic where
  mantissa : Nat
  exponent : Int
  closeBelow : Bool
deriving DecidableEq, Repr

/-- The number `digits * 10 ^ exponent`. -/
structure Scientific where
  digits : Nat
  exponent : Int
deriving DecidableEq, Repr

/-- Which of two equally near decimals is taken. -/
inductive Tie
  | toEven
  | up
deriving DecidableEq, Repr

namespace Dyadic
variable (v : Dyadic)

/-- Size of a quarter of the grid's step, once the grid `10 ^ k` and it are whole numbers. -/
def quarter (k : Int) : Nat := Nat.pow 2 (v.exponent - 2).toNat * Nat.pow 10 (-k).toNat

/-- Size of one step of the decimal grid `10 ^ k`, in the unit of `quarter`. -/
def step (k : Int) : Nat := Nat.pow 10 k.toNat * Nat.pow 2 (2 - v.exponent).toNat

/-- The distance to the end of the interval below, in quarters. -/
def below : Nat := if v.closeBelow then 1 else 2

/-- `x * 10 ^ k` lies among the numbers that round to `v`: at most half way to a neighbour,
the ends included when the mantissa is even. -/
def Covers (k : Int) (x : Nat) : Prop :=
  let low := (4 * v.mantissa - v.below) * v.quarter k
  let high := (4 * v.mantissa + 2) * v.quarter k
  if v.mantissa % 2 = 0 then low ≤ x * v.step k ∧ x * v.step k ≤ high
  else low < x * v.step k ∧ x * v.step k < high

instance (k : Int) (x : Nat) : Decidable (v.Covers k x) := by
  unfold Covers
  infer_instance

/-- The largest multiple of `10 ^ k` that is not above `v`, as a count of steps. -/
def floor (k : Int) : Nat := 4 * v.mantissa * v.quarter k / v.step k

/-- What is left above `floor`. -/
def rest (k : Int) : Nat := 4 * v.mantissa * v.quarter k % v.step k

/-- The nearer of the two neighbours of `v` on the grid `10 ^ k`. -/
def nearest (tie : Tie) (k : Int) : Nat :=
  let d := v.floor k
  match compare (2 * v.rest k) (v.step k) with
  | .lt => d
  | .gt => d + 1
  | .eq =>
    match tie with
    | .up => d + 1
    | .toEven => if d % 2 = 0 then d else d + 1

/-- The neighbour of `v` on the grid `10 ^ k` that reads back as `v`, the nearer one if both do. -/
def onGrid? (tie : Tie) (k : Int) : Option Nat :=
  let d := v.floor k
  match decide (v.Covers k d), decide (v.Covers k (d + 1)) with
  | true, true => some (v.nearest tie k)
  | true, false => some d
  | false, true => some (d + 1)
  | false, false => none

/-- The first of the grids `10 ^ k`, `10 ^ (k - 1)`, … with a neighbour that reads back. -/
def search (tie : Tie) : Nat → Int → Scientific
  | 0, k => ⟨v.floor k, k⟩
  | fuel + 1, k =>
    match v.onGrid? tie k with
    | some d => ⟨d, k⟩
    | none => search tie fuel (k - 1)

/-- A power of ten that is not below `v`, at most a few steps too large. -/
def ceilLog10 : Int := ((Nat.log2 v.mantissa : Int) + 1 + v.exponent) * 30103 / 100000 + 1

/-- Seventeen digits read back from any binary64 number, so the search ends within its rounds. -/
def shortest (tie : Tie) : Scientific := v.search tie 24 v.ceilLog10

end Dyadic

/-- The fraction of a binary64 number has 52 bits. -/
def fractionSize : Nat := 0x10000000000000

/-- Its exponent has 11 bits, of which none set and all set are special. -/
def exponentSize : Nat := 0x800

/-- The size of a finite float other than zero. -/
def dyadic? (x : Float) : Option Dyadic :=
  let bits : Nat := x.toBits.toNat
  let e : Nat := bits / fractionSize % exponentSize
  let f : Nat := bits % fractionSize
  if e + 1 = exponentSize then none
  else if e = 0 then if f = 0 then none else some ⟨f, -1074, false⟩
  else some ⟨fractionSize + f, (e : Int) - 1075, decide (f = 0) && decide (1 < e)⟩

def isNegative (x : Float) : Bool := decide (UInt64.size / 2 ≤ x.toBits.toNat)

example : (Dyadic.mk 1 (-1074) false).shortest .toEven = ⟨5, -324⟩ := by decide +kernel
example : (Dyadic.mk 7205759403792794 (-56) false).shortest .toEven = ⟨1, -1⟩ := by decide +kernel
example : (Dyadic.mk 4503599627370497 (-2) false).shortest .toEven = ⟨11258999068426242, -1⟩ := by
  decide +kernel
example : (Dyadic.mk 4503599627370497 (-2) false).shortest .up = ⟨11258999068426243, -1⟩ := by
  decide +kernel

end GraphCompare.Decimal
