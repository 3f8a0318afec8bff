import GraphCompare.Screen.Scalar
import Mathlib

/-! Floats as numbers to measure with: how they compare, and which rational numbers they are. To
read finite floats exactly keeps their order. -/
namespace GraphCompare.Scalar
open Float.Model (Format UnpackedFloat)
open Float.Model.UnpackedFloat (Sign)

variable {x y : Float} {a b u : UnpackedFloat} {m n : Nat} {e f : Int} {hm : 0 < m} {hn : 0 < n}

section order

theorem lt_iff_unpack : x < y ↔ x.toModel.unpack.lt y.toModel.unpack = true := by
  change decide (x.toModel < y.toModel) = true ↔ _
  rw [decide_eq_true_iff]
  rfl

theorem less_iff_lt : less x y = true ↔ x < y := decide_eq_true_iff

theorem compare_swap (a b : UnpackedFloat) : b.compare a = (a.compare b).map Ordering.swap := by
  have hthen : ∀ (e f : Int) (m n : Nat), (compare f e).then (compare n m) =
      ((compare e f).then (compare m n)).swap := by
    intro e f m n
    rw [Ordering.swap_then, ← Std.OrientedCmp.eq_swap, ← Std.OrientedCmp.eq_swap]
  cases a with
  | notANumber => cases b <;> rfl
  | zero s =>
    cases b with
    | infinity t => cases t <;> rfl
    | finite t => cases t <;> rfl
    | _ => rfl
  | infinity s =>
    cases b with
    | infinity t => cases s <;> cases t <;> rfl
    | _ => cases s <;> rfl
  | finite s m e hm =>
    cases b with
    | infinity t => cases s <;> cases t <;> rfl
    | finite t n f hn =>
      cases s <;> cases t
      · exact congrArg (fun o => some (Ordering.swap o)) (hthen e f m n)
      · rfl
      · rfl
      · exact congrArg some (hthen e f m n)
    | _ => cases s <;> rfl

theorem not_lt_of_lt (h : x < y) : ¬ y < x := by
  have hcompare : x.toModel.unpack.compare y.toModel.unpack = some .lt :=
    eq_of_beq (lt_iff_unpack.mp h)
  rw [lt_iff_unpack, UnpackedFloat.lt, compare_swap, hcompare]
  exact Bool.false_ne_true

/-- What is no number is neither above nor below anything. -/
theorem not_lt_of_isNaN (h : x.isNaN = true) (y : Float) : ¬ x < y ∧ ¬ y < x := by
  have hnan : x.toModel.unpack = .notANumber := by
    change x.toModel.unpack.isNaN = true at h
    cases hx : x.toModel.unpack with
    | notANumber => rfl
    | zero | finite | infinity =>
      rw [hx] at h
      cases h
  rw [lt_iff_unpack, lt_iff_unpack, hnan]
  constructor
  · exact Bool.false_ne_true
  · cases y.toModel.unpack <;> exact Bool.false_ne_true

/-- Neither what is no number nor an infinity is between finite numbers. -/
theorem isFinite_of_between (ha : a.isFinite = true) (hb : b.isFinite = true)
    (hau : a.lt u = true) (hub : u.lt b = true) : u.isFinite = true := by
  cases u with
  | zero | finite => rfl
  | notANumber => cases b <;> cases hub
  | infinity sign =>
    cases sign with
    | positive => cases b <;> first | cases hub | cases hb
    | negative => cases a <;> first | cases hau | cases ha

theorem isFinite_of_pos_of_lt_one (hpos : 0 < x) (hlt : x < 1) : x.isFinite = true :=
  isFinite_of_between (by decide) (by decide) (lt_iff_unpack.mp hpos) (lt_iff_unpack.mp hlt)

/-- With one sign the exponents decide first, and the mantissas between equal exponents. -/
theorem lt_positive_iff : (UnpackedFloat.finite .positive m e hm).lt (.finite .positive n f hn) =
    true ↔ e < f ∨ e = f ∧ m < n := by
  rw [UnpackedFloat.lt, UnpackedFloat.compare, beq_iff_eq, Option.some_inj, Ordering.then_eq_lt,
    compare_lt_iff_lt, compare_eq_iff_eq, compare_lt_iff_lt]

theorem lt_negative_iff : (UnpackedFloat.finite .negative m e hm).lt (.finite .negative n f hn) =
    true ↔ f < e ∨ f = e ∧ n < m := by
  rw [UnpackedFloat.lt, UnpackedFloat.compare, beq_iff_eq, Option.some_inj, Ordering.swap_eq_lt,
    Ordering.then_eq_gt, compare_gt_iff_gt, compare_eq_iff_eq, compare_gt_iff_gt,
    eq_comm (a := e)]

end order

section value

/-- A mantissa of at most 53 bits, and of no fewer unless the exponent is the least one. -/
structure Canonical (m : Nat) (e : Int) : Prop where
  lt : m < 2 ^ 53
  le_or : 2 ^ 52 ≤ m ∨ e = -1074
  le : -1074 ≤ e

def IsCanonical : UnpackedFloat → Prop
  | .finite _ m e _ => Canonical m e
  | _ => True

theorem isCanonical_unpack (b : BitVec Format.binary64.numBits) :
    IsCanonical (UnpackedFloat.unpack Format.binary64 b) := by
  unfold UnpackedFloat.unpack
  dsimp only
  split
  · split <;> trivial
  · split
    · rename_i hexp
      split
      · trivial
      · -- With the least exponent the leading bit may be missing.
        rw [hexp]
        refine ⟨?_, .inr rfl, le_refl _⟩
        exact Nat.lt_of_lt_of_le (BitVec.isLt _) (by decide)
    · rename_i hexp
      have hpos : 0 < (UnpackedFloat.unpackExponent b).toNat := by
        simpa [BitVec.toNat_pos, BitVec.pos_iff_ne_zero] using hexp
      have hbias : (Format.binary64.exponentBias : Int) = 1023 := rfl
      refine ⟨BitVec.isLt _, .inl ?_, by omega⟩
      rw [BitVec.toNat_append]
      exact Nat.left_le_or

theorem magnitude_lt (hm : Canonical m e) (hn : Canonical n f)
    (h : e < f ∨ e = f ∧ m < n) : (m : ℚ) * 2 ^ e < n * 2 ^ f := by
  rcases h with hlt | ⟨rfl, hlt⟩
  · have hleast : f ≠ -1074 := by
      have := hm.le
      omega
    have hlead : 2 ^ 52 ≤ n := hn.le_or.resolve_right hleast
    have hbits : m < 2 ^ 53 := hm.lt
    calc (m : ℚ) * 2 ^ e < 2 ^ 53 * 2 ^ e := by
          gcongr
          exact_mod_cast hbits
      _ = 2 ^ 52 * 2 ^ (e + 1) := by
          rw [zpow_add_one₀ two_ne_zero]
          ring
      _ ≤ n * 2 ^ f := by
          gcongr
          · exact_mod_cast hlead
          · norm_num
          · exact hlt
  · gcongr

/-- The rational number that an unpacked float is; what is none counts as zero. -/
def valueOf : UnpackedFloat → ℚ
  | .finite sign m e _ => sign.apply m * 2 ^ e
  | _ => 0

theorem valueOf_positive : valueOf (.finite .positive m e hm) = m * 2 ^ e := by
  rw [valueOf, Sign.apply, Int.cast_natCast]

theorem valueOf_negative : valueOf (.finite .negative m e hm) = -(m * 2 ^ e) := by
  rw [valueOf, Sign.apply, Int.cast_neg, Int.cast_natCast, neg_mul]

theorem valueOf_lt_valueOf (ha : a.isFinite = true) (hb : b.isFinite = true)
    (hca : IsCanonical a) (hcb : IsCanonical b) (h : a.lt b = true) : valueOf a < valueOf b := by
  have hpos : ∀ (n : Nat) (f : Int), 0 < n → 0 < (n : ℚ) * 2 ^ f := by
    intro n f hn
    positivity
  cases a with
  | notANumber | infinity => cases ha
  | zero s =>
    cases b with
    | notANumber | infinity => cases hb
    | zero t => cases h
    | finite t n f hn =>
      cases t with
      | negative => cases h
      | positive =>
        rw [valueOf_positive]
        exact hpos n f hn
  | finite s m e hm =>
    cases b with
    | notANumber | infinity => cases hb
    | zero t =>
      cases s with
      | negative =>
        rw [valueOf_negative]
        exact neg_neg_of_pos (hpos m e hm)
      | positive => cases h
    | finite t n f hn =>
      cases s <;> cases t
      · rw [valueOf_negative, valueOf_negative]
        exact neg_lt_neg (magnitude_lt hcb hca (lt_negative_iff.mp h))
      · rw [valueOf_negative, valueOf_positive]
        exact (neg_neg_of_pos (hpos m e hm)).trans (hpos n f hn)
      · cases h
      · rw [valueOf_positive, valueOf_positive]
        exact magnitude_lt hca hcb (lt_positive_iff.mp h)

/-- The rational number that a float is. -/
def exactValue (x : Float) : ℚ := valueOf x.toModel.unpack

theorem exactValue_lt_exactValue (hx : x.isFinite = true) (hy : y.isFinite = true) (h : x < y) :
    exactValue x < exactValue y :=
  valueOf_lt_valueOf hx hy (isCanonical_unpack _) (isCanonical_unpack _) (lt_iff_unpack.mp h)

theorem exactValue_zero : exactValue 0 = 0 := by decide +kernel

theorem exactValue_one : exactValue 1 = 1 := by decide +kernel

/-- Between the floats 0 and 1 are numbers between 0 and 1. -/
theorem exactValue_between (hpos : 0 < x) (hlt : x < 1) : 0 < exactValue x ∧ exactValue x < 1 := by
  have hx : x.isFinite = true := isFinite_of_pos_of_lt_one hpos hlt
  have hzero : exactValue 0 < exactValue x := exactValue_lt_exactValue (by decide) hx hpos
  have hone : exactValue x < exactValue 1 := exactValue_lt_exactValue hx (by decide) hlt
  rw [exactValue_zero] at hzero
  rw [exactValue_one] at hone
  exact ⟨hzero, hone⟩

end value

end GraphCompare.Scalar
