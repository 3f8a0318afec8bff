import GraphCompare.Proofs.Text.Digits
import GraphCompare.Text.Blank
import Mathlib.Data.List.Forall2
import Mathlib.Data.Nat.Digits.Defs

/-! Numerals by place value: what a row of digit characters denotes, that reading finds just that,
and that rows of one length are ordered as their numbers are. -/
namespace GraphCompare.Numeral
variable {b d e n m width : Nat} {c : Char} {cs : List Char} {ds es : List Nat}

/-- A character stands for a digit of the base, in either case. -/
def Stands (b : Nat) (c : Char) (d : Nat) : Prop :=
  d < b ∧ ("0123456789abcdef".toList[d]? = some c ∨ "0123456789ABCDEF".toList[d]? = some c)

/-- A row of one digit or more has this value, by place. -/
def Denotes (b : Nat) (cs : List Char) (n : Nat) : Prop :=
  cs ≠ [] ∧ ∃ ds, List.Forall₂ (Stands b) cs ds ∧ Nat.ofDigits b ds.reverse = n

section digit

theorem stands_iff (hb : b ≤ 16) :
    Stands b c d ↔ d < b ∧ (c = lowerChar d ∨ c = upperChar d) := by
  have hlower : ∀ d < 16, "0123456789abcdef".toList[d]? = some (lowerChar d) := by decide
  have hupper : ∀ d < 16, "0123456789ABCDEF".toList[d]? = some (upperChar d) := by decide
  refine and_congr_right fun hd => ?_
  rw [hlower d (by omega), hupper d (by omega), Option.some.injEq, Option.some.injEq,
    eq_comm, eq_comm (a := upperChar d)]

theorem digit?_upperChar : ∀ d < 16, digit? 16 (upperChar d) = some d := by decide

/-- The base only says which digits there are. -/
theorem digit?_of_lt {b' : Nat} (h : digit? b c = some d) (hd : d < b') : digit? b' c = some d :=
  Option.filter_eq_some_iff.mpr ⟨(Option.filter_eq_some_iff.mp h).1, decide_eq_true hd⟩

theorem eq_char_of_digit? (h : digit? 16 c = some d) : c = lowerChar d ∨ c = upperChar d := by
  have hle : ∀ {x y : Char}, x ≤ y → x.toNat ≤ y.toNat := id
  have hchar : ∀ {k}, k + d = c.toNat → c = Char.ofNat (k + d) :=
    fun hk => by rw [hk, Char.ofNat_toNat]
  obtain ⟨hd, hlt⟩ := Option.filter_eq_some_iff.mp h
  have hlt : d < 16 := of_decide_eq_true hlt
  -- The three ranges of digit characters, one after the other.
  split at hd
  · rename_i hc
    have hlow : 48 ≤ c.toNat := hle hc.1
    have hhigh : c.toNat ≤ 57 := hle hc.2
    rw [Option.some.injEq] at hd
    rw [lowerChar, if_pos (by omega)]
    exact .inl (hchar (by omega))
  · split at hd
    · rename_i hc
      have hlow : 97 ≤ c.toNat := hle hc.1
      rw [Option.some.injEq] at hd
      rw [lowerChar, if_neg (by omega)]
      exact .inl (hchar (by omega))
    · split at hd
      · rename_i hc
        have hlow : 65 ≤ c.toNat := hle hc.1
        rw [Option.some.injEq] at hd
        rw [upperChar, if_neg (by omega)]
        exact .inr (hchar (by omega))
      · cases hd

/-- Both writings of a digit are read as it, and nothing else is. -/
theorem digit?_eq_some_iff (hb : b ≤ 16) : digit? b c = some d ↔ Stands b c d := by
  rw [stands_iff hb]
  constructor
  · intro h
    have hd : d < b := of_decide_eq_true (Option.filter_eq_some_iff.mp h).2
    exact ⟨hd, eq_char_of_digit? (digit?_of_lt h (Nat.lt_of_lt_of_le hd hb))⟩
  · rintro ⟨hd, rfl | rfl⟩
    · exact digit?_of_lt (digit?_lowerChar d (Nat.lt_of_lt_of_le hd hb)) hd
    · exact digit?_of_lt (digit?_upperChar d (Nat.lt_of_lt_of_le hd hb)) hd

/-- A digit is neither a blank, nor a plus, nor the letter of a mark. -/
theorem plain_of_stands (hb : b ≤ 16) (h : Stands b c d) :
    Text.isBlank c = false ∧ c ≠ '+' ∧ c ≠ 'x' ∧ c ≠ 'X' := by
  have hlower : ∀ d < 16, Text.isBlank (lowerChar d) = false ∧ lowerChar d ≠ '+' ∧
      lowerChar d ≠ 'x' ∧ lowerChar d ≠ 'X' := by decide
  have hupper : ∀ d < 16, Text.isBlank (upperChar d) = false ∧ upperChar d ≠ '+' ∧
      upperChar d ≠ 'x' ∧ upperChar d ≠ 'X' := by decide
  obtain ⟨hd, rfl | rfl⟩ := (stands_iff hb).mp h
  · exact hlower d (Nat.lt_of_lt_of_le hd hb)
  · exact hupper d (Nat.lt_of_lt_of_le hd hb)

end digit

section row

theorem value_eq_ofDigits (b : Nat) (ds : List Nat) : value b ds = Nat.ofDigits b ds.reverse := by
  rw [Nat.ofDigits_eq_foldr, List.foldr_reverse, value]
  simp [Nat.mul_comm, Nat.add_comm]

theorem mapM_eq_some_iff {α β : Type} {f : α → Option β} {xs : List α} {ys : List β} :
    xs.mapM f = some ys ↔ List.Forall₂ (fun x y => f x = some y) xs ys := by
  induction xs generalizing ys with
  | nil => simp [eq_comm]
  | cons x xs ih =>
    simp only [List.mapM_cons, Option.bind_eq_bind, Option.bind_eq_some_iff, Option.pure_def,
      Option.some.injEq, List.forall₂_cons_left_iff, ih]
    constructor
    · rintro ⟨y, hy, ys, hys, rfl⟩
      exact ⟨y, ys, hy, hys, rfl⟩
    · rintro ⟨y, ys, hy, hys, rfl⟩
      exact ⟨y, hy, ys, hys, rfl⟩

/-- A row is read as the number that it denotes. -/
theorem read?_eq_some_iff (hb : b ≤ 16) : read? b cs = some n ↔ Denotes b cs n := by
  cases cs with
  | nil => simp [read?, Denotes]
  | cons c cs =>
    simp only [read?, Option.map_eq_some_iff, mapM_eq_some_iff, digit?_eq_some_iff hb,
      value_eq_ofDigits, Denotes, ne_eq, reduceCtorEq, not_false_eq_true, true_and]

theorem denotes_unique (hb : b ≤ 16) (hn : Denotes b cs n) (hm : Denotes b cs m) : n = m := by
  rw [← read?_eq_some_iff hb] at hn hm
  exact Option.some.inj (hn.symm.trans hm)

theorem plain_of_denotes (hb : b ≤ 16) (h : Denotes b cs n) :
    ∀ c ∈ cs, Text.isBlank c = false ∧ c ≠ '+' ∧ c ≠ 'x' ∧ c ≠ 'X' := by
  obtain ⟨-, ds, hds, -⟩ := h
  induction hds with
  | nil => nofun
  | cons hd _ ih => exact List.forall_mem_cons.mpr ⟨plain_of_stands hb hd, ih⟩

/-- The characters of some digits denote the number that the digits make. -/
theorem denotes_map {f : Nat → Char} (hne : ds ≠ []) (h : ∀ d ∈ ds, Stands b (f d) d) :
    Denotes b (ds.map f) (value b ds) := by
  refine ⟨by simpa using hne, ds, ?_, (value_eq_ofDigits b ds).symm⟩
  rw [List.forall₂_map_left_iff]
  exact List.forall₂_same.mpr h

theorem map_digitsWithin {fuel : Nat} (h : n < fuel) :
    (digitsWithin 10 fuel n).map lowerChar = Nat.toDigits 10 n := by
  have hchar : ∀ d < 10, lowerChar d = Nat.digitChar d := by decide
  induction fuel generalizing n with
  | zero => omega
  | succ fuel ih =>
    rw [digitsWithin, Nat.toDigits_eq_if (by decide)]
    split
    · rename_i hten
      rw [List.map_singleton, hchar n hten]
    · rw [List.map_append, ih (by omega), List.map_singleton, hchar (n % 10) (by omega)]

theorem decimal_eq_toDigits (n : Nat) : decimal n = Nat.toDigits 10 n :=
  map_digitsWithin (Nat.lt_succ_self n)

theorem denotes_decimal (n : Nat) : Denotes 10 (decimal n) n := by
  obtain ⟨d, ds, hds, -⟩ := exists_digits (b := 10) (by decide) n
  have hdenotes : Denotes 10 ((digits 10 n).map lowerChar) (value 10 (digits 10 n)) := by
    refine denotes_map (by simp [hds]) fun d hd => ?_
    exact (stands_iff (by decide)).mpr ⟨lt_of_mem_digits (by decide) hd, .inl rfl⟩
  rwa [value_digits (by decide)] at hdenotes

theorem lt_of_mem_fixed (hb : 0 < b) (h : d ∈ fixed b width n) : d < b := by
  induction width generalizing n with
  | zero => cases h
  | succ width ih =>
    rw [fixed, List.mem_append, List.mem_singleton] at h
    rcases h with h | rfl
    · exact ih h
    · exact Nat.mod_lt n hb

end row

section order

theorem value_cons (b d : Nat) (ds : List Nat) :
    value b (d :: ds) = d * b ^ ds.length + value b ds := by
  rw [value_eq_ofDigits, value_eq_ofDigits, Nat.ofDigits_reverse_cons, Nat.add_comm, Nat.mul_comm]

theorem value_lt_pow (hb : 1 < b) (h : ∀ d ∈ ds, d < b) : value b ds < b ^ ds.length := by
  rw [value_eq_ofDigits, ← List.length_reverse]
  exact Nat.ofDigits_lt_base_pow_length hb fun d hd => h d (List.mem_reverse.mp hd)

/-- A digit outweighs all that come after it. -/
theorem place_lt {p v w : Nat} (hde : d < e) (hv : v < p) : d * p + v < e * p + w :=
  calc d * p + v < d * p + p := Nat.add_lt_add_left hv _
    _ = (d + 1) * p := (Nat.succ_mul d p).symm
    _ ≤ e * p := Nat.mul_le_mul_right p hde
    _ ≤ e * p + w := Nat.le_add_right _ w

/-- By induction from the first digit on: where rows of one length differ first decides. -/
theorem lt_iff_value_lt (hb : 1 < b) (hlength : ds.length = es.length) (hds : ∀ d ∈ ds, d < b)
    (hes : ∀ e ∈ es, e < b) : ds < es ↔ value b ds < value b es := by
  induction ds generalizing es with
  | nil =>
    obtain rfl := List.eq_nil_of_length_eq_zero hlength.symm
    simp
  | cons d ds ih =>
    cases es with
    | nil => cases hlength
    | cons e es =>
      rw [List.forall_mem_cons] at hds hes
      have hlen : ds.length = es.length := Nat.succ.inj hlength
      have hv := value_lt_pow hb hds.2
      have hw := value_lt_pow hb hes.2
      rw [← hlen] at hw
      rw [List.cons_lt_cons_iff, value_cons, value_cons, ← hlen]
      rcases Nat.lt_trichotomy d e with hlt | rfl | hgt
      · exact iff_of_true (.inl hlt) (place_lt hlt hv)
      · simp [ih hlen hds.2 hes.2]
      · refine iff_of_false ?_ (Nat.lt_asymm (place_lt hgt hw))
        rintro (h | ⟨rfl, -⟩)
        · exact Nat.lt_asymm h hgt
        · exact Nat.lt_irrefl d hgt

/-- The characters of hexadecimal digits are in the order of the digits. -/
theorem map_upperChar_lt_iff (hds : ∀ d ∈ ds, d < 16) (hes : ∀ e ∈ es, e < 16) :
    ds.map upperChar < es.map upperChar ↔ ds < es := by
  have hchar : ∀ d < 16, ∀ e < 16,
      (upperChar d < upperChar e ↔ d < e) ∧ (upperChar d = upperChar e ↔ d = e) := by decide
  induction ds generalizing es with
  | nil => cases es <;> simp
  | cons d ds ih =>
    cases es with
    | nil => simp
    | cons e es =>
      rw [List.forall_mem_cons] at hds hes
      obtain ⟨hlt, heq⟩ := hchar d hds.1 e hes.1
      rw [List.map_cons, List.map_cons, List.cons_lt_cons_iff, List.cons_lt_cons_iff]
      exact or_congr hlt (and_congr heq (ih hds.2 hes.2))

end order

end GraphCompare.Numeral
