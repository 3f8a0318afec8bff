import GraphCompare.Text.Numeral

/-! Digits of a number, and the characters that they are written with. -/
namespace GraphCompare.Numeral
variable {b n d fuel : Nat}

theorem lt_of_mem_digitsWithin (hb : 0 < b) (h : d ∈ digitsWithin b fuel n) : d < b := by
  induction fuel generalizing n with
  | zero => cases h
  | succ fuel ih =>
    rw [digitsWithin] at h
    split at h
    · rename_i hn
      rwa [List.mem_singleton.mp h]
    · rename_i hn
      rw [List.mem_append, List.mem_singleton] at h
      rcases h with h | rfl
      · exact ih h
      · exact Nat.mod_lt n hb

theorem lt_of_mem_digits (hb : 0 < b) (h : d ∈ digits b n) : d < b := lt_of_mem_digitsWithin hb h

/-- Only a single digit can be a zero in front. -/
theorem exists_digitsWithin (hb : 2 ≤ b) (h : n < fuel) :
    ∃ d ds, digitsWithin b fuel n = d :: ds ∧ (ds = [] ∨ d ≠ 0) := by
  induction fuel generalizing n with
  | zero => omega
  | succ fuel ih =>
    rw [digitsWithin]
    split
    · exact ⟨n, [], rfl, .inl rfl⟩
    · rename_i hn
      have hlt : n / b < n := Nat.div_lt_self (by omega) hb
      obtain ⟨d, ds, hds, hzero⟩ := ih (n := n / b) (by omega)
      refine ⟨d, ds ++ [n % b], by rw [hds]; rfl, .inr ?_⟩
      rcases hzero with rfl | hd
      · -- The one digit is the quotient itself.
        have hvalue : value b (digitsWithin b fuel (n / b)) = n / b :=
          value_digitsWithin hb (by omega)
        have hquotient : d = n / b := by simpa [hds, value] using hvalue
        have hpos : 0 < n / b := Nat.div_pos (by omega) (by omega)
        omega
      · exact hd

theorem exists_digits (hb : 2 ≤ b) (n : Nat) :
    ∃ d ds, digits b n = d :: ds ∧ (ds = [] ∨ d ≠ 0) :=
  exists_digitsWithin hb (Nat.lt_succ_self n)

theorem le_foldl (hb : 0 < b) (ds : List Nat) (n : Nat) :
    n ≤ ds.foldl (fun n d => n * b + d) n := by
  induction ds generalizing n with
  | nil => exact Nat.le_refl n
  | cons d ds ih =>
    have hstep : n ≤ n * b + d :=
      Nat.le_trans (Nat.le_mul_of_pos_right n hb) (Nat.le_add_right _ _)
    exact Nat.le_trans hstep (ih (n * b + d))

theorem isDigit_lowerChar : ∀ d < 10, (lowerChar d).isDigit = true := by decide

theorem exists_decimal (n : Nat) : ∃ c cs, decimal n = c :: cs ∧ c.isDigit = true := by
  obtain ⟨d, ds, hds, _⟩ := exists_digits (b := 10) (by decide) n
  have hd : d < 10 := lt_of_mem_digits (by decide) (hds ▸ List.mem_cons_self)
  exact ⟨lowerChar d, ds.map lowerChar, by rw [decimal, hds]; rfl, isDigit_lowerChar d hd⟩

theorem toNat_lowerChar : ∀ d < 10, (lowerChar d).toNat - 48 = d := by decide

theorem digit?_lowerChar : ∀ d < 16, digit? 16 (lowerChar d) = some d := by decide

end GraphCompare.Numeral
