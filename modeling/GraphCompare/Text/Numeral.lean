/-! Numerals: the digits of a natural number in a base, and the number that digits stand for. -/
namespace GraphCompare.Numeral
variable {b : Nat}

/-- The number that `ds` stands for, the most significant digit first. -/
def value (b : Nat) (ds : List Nat) : Nat := ds.foldl (fun n d => n * b + d) 0

/-- The last `width` digits of `n`, with zeros on the left. -/
def fixed (b : Nat) : Nat → Nat → List Nat
  | 0, _ => []
  | width + 1, n => fixed b width (n / b) ++ [n % b]

/-- The digits of `n` as long as `fuel` lasts; `n + 1` rounds are always enough. -/
def digitsWithin (b : Nat) : Nat → Nat → List Nat
  | 0, _ => []
  | fuel + 1, n => if n < b then [n] else digitsWithin b fuel (n / b) ++ [n % b]

/-- The digits of `n` without leading zeros; zero has the one digit zero. -/
def digits (b n : Nat) : List Nat := digitsWithin b (n + 1) n

def lowerChar (d : Nat) : Char := if d < 10 then Char.ofNat (48 + d) else Char.ofNat (87 + d)

def upperChar (d : Nat) : Char := if d < 10 then Char.ofNat (48 + d) else Char.ofNat (55 + d)

/-- The digit a character stands for: ASCII digits, then ASCII letters of either case. -/
def digit? (b : Nat) (c : Char) : Option Nat :=
  let d :=
    if '0' ≤ c ∧ c ≤ '9' then some (c.toNat - 48)
    else if 'a' ≤ c ∧ c ≤ 'z' then some (c.toNat - 87)
    else if 'A' ≤ c ∧ c ≤ 'Z' then some (c.toNat - 55)
    else none
  d.filter (· < b)

/-- The number a non-empty row of digits stands for, of any length. -/
def read? (b : Nat) : List Char → Option Nat
  | [] => none
  | cs => (cs.mapM (digit? b)).map (value b)

def decimal (n : Nat) : List Char := (digits 10 n).map lowerChar

def hex (n : Nat) : List Char := (digits 16 n).map lowerChar

theorem value_concat (ds : List Nat) (d : Nat) :
    value b (ds ++ [d]) = value b ds * b + d := by
  simp [value]

@[simp] theorem length_fixed (b width n : Nat) : (fixed b width n).length = width := by
  induction width generalizing n with
  | zero => rfl
  | succ width ih => simp [fixed, ih]

theorem value_fixed (b width n : Nat) : value b (fixed b width n) = n % b.pow width := by
  induction width generalizing n with
  | zero => simp [fixed, value, Nat.mod_one]
  | succ width ih =>
    rw [fixed, value_concat, ih]
    change _ = n % (b.pow width * b)
    rw [Nat.mul_comm (b.pow width) b, Nat.mod_mul, Nat.mul_comm b]
    omega

theorem value_digitsWithin (hb : 2 ≤ b) {fuel n : Nat} (h : n < fuel) :
    value b (digitsWithin b fuel n) = n := by
  induction fuel generalizing n with
  | zero => omega
  | succ fuel ih =>
    rw [digitsWithin]
    split
    · simp [value]
    · have hlt : n / b < n := Nat.div_lt_self (by omega) hb
      rw [value_concat, ih (by omega), Nat.mul_comm, Nat.div_add_mod]

theorem value_digits (hb : 2 ≤ b) (n : Nat) : value b (digits b n) = n :=
  value_digitsWithin hb (Nat.lt_succ_self n)

end GraphCompare.Numeral
