import GraphCompare.Proofs.Overlay.Assembly

/-! The stages of an assembly: what is written at the elements, and which merged elements are open,
once so many elements of each side have been taken. -/
namespace GraphCompare

/-- The leading elements of one list as they are and the leading ones of another as far as they give
anything. -/
def leading {α β γ : Type} (F : Nat → α → γ) (G : Nat → β → Option γ) (as : List α) (bs : List β)
    (i j : Nat) : List γ :=
  (as.take i).mapIdx F ++ ((bs.take j).mapIdx G).filterMap id

section leading
variable {α β γ : Type} {F : Nat → α → γ} {G : Nat → β → Option γ} {as : List α} {bs : List β}
  {i j : Nat} {a : α} {b : β}

theorem leading_all : leading F G as bs as.length bs.length =
    as.mapIdx F ++ (bs.mapIdx G).filterMap id := by
  rw [leading, List.take_length, List.take_length]

theorem leading_zero (i : Nat) : leading F G as bs i 0 = (as.take i).mapIdx F :=
  List.append_nil _

theorem leading_succ_left (h : as[i]? = some a) :
    leading F G as bs (i + 1) 0 = leading F G as bs i 0 ++ [F i a] := by
  obtain ⟨hi, rfl⟩ := List.getElem?_eq_some_iff.mp h
  rw [leading_zero, leading_zero, List.take_succ_eq_append_getElem hi, List.mapIdx_concat,
    List.length_take, Nat.min_eq_left hi.le]

theorem leading_succ_right (h : bs[j]? = some b) (i : Nat) :
    leading F G as bs i (j + 1) = leading F G as bs i j ++ (G j b).toList := by
  obtain ⟨hj, rfl⟩ := List.getElem?_eq_some_iff.mp h
  simp only [leading, List.take_succ_eq_append_getElem hj, List.mapIdx_concat,
    List.filterMap_append, List.length_take, Nat.min_eq_left hj.le, List.append_assoc]
  cases G j bs[j] <;> rfl

/-- The leading primary elements come first in the whole list. -/
theorem leading_prefix_left (i : Nat) :
    leading F G as bs i 0 <+: as.mapIdx F ++ (bs.mapIdx G).filterMap id := by
  rw [leading_zero]
  conv =>
    rhs
    rw [← List.take_append_drop i as, List.mapIdx_append, List.append_assoc]
  exact List.prefix_append _ _

/-- So do all primary elements with the leading secondary ones. -/
theorem leading_prefix_right (j : Nat) :
    leading F G as bs as.length j <+: as.mapIdx F ++ (bs.mapIdx G).filterMap id := by
  rw [leading, List.take_length]
  conv =>
    rhs
    rw [← List.take_append_drop j bs, List.mapIdx_append, List.filterMap_append,
      ← List.append_assoc]
  exact List.prefix_append _ _

end leading

/-- Whether an element has its identity once so many primary and so many secondary ones are taken:
a secondary one with a partner gets it together with that. -/
def passed (ps : PerSide (Array (Option Partner))) (i j : Nat) (s : Side) (u : Nat) : Bool :=
  match s with
  | .primary => u < i
  | .secondary =>
    match partnerAt ps .secondary u with
    | some p => p.index < i
    | none => u < j

namespace Marks
open Overlay

/-- What is written in the end. -/
def final (ps : PerSide (Array (Option Partner))) : Marks :=
  fun s u => (partnerAt ps s u, (((identityTable ps).get s)[u]?).getD 0)

/-- What is written at a stage, given what was written at first. -/
def staged (ps : PerSide (Array (Option Partner))) (first : Marks) (i j : Nat) : Marks :=
  fun s u => if passed ps i j s u then final ps s u else first s u

variable {ps : PerSide (Array (Option Partner))} {first : Marks} {i j u n : Nat} {p : Partner}
  {s : Side}

theorem final_eq (hid : ((identityTable ps).get s)[u]? = some n) :
    final ps s u = (partnerAt ps s u, n) := by
  rw [final, hid]
  rfl

/-- A partner has the same identity written at it. -/
theorem final_partner (h : Mutual ps) (hp : partnerAt ps .primary i = some p)
    (hid : ((identityTable ps).get .primary)[i]? = some n) :
    final ps .secondary p.index = (some ⟨i, p.kind⟩, n) ∧
      ((identityTable ps).get .secondary)[p.index]? = some n := by
  have hid' : ((identityTable ps).get .secondary)[p.index]? = some n :=
    (identity_partner h hp).symm.trans hid
  exact ⟨(final_eq hid').trans (congrArg (·, n) (h.back hp)), hid'⟩

theorem staged_zero (ps : PerSide (Array (Option Partner))) (first : Marks) :
    staged ps first 0 0 = first := by
  funext s u
  rw [staged, if_neg]
  cases s with
  | primary => simp [passed]
  | secondary => cases hp : partnerAt ps .secondary u <;> simp [passed, hp]

/-- In the end no element of a side is left. -/
theorem staged_all (h : Mutual ps) (first : Marks) (hu : u < (ps.get s).size) :
    staged ps first ps.primary.size ps.secondary.size s u = final ps s u := by
  rw [staged, if_pos]
  cases s with
  | primary => exact decide_eq_true hu
  | secondary =>
    cases hp : partnerAt ps .secondary u with
    | some p =>
      have hlt : p.index < ps.primary.size := partnerAt_lt (h.back hp)
      simp [passed, hp, hlt]
    | none =>
      have hlt : u < ps.secondary.size := hu
      simp [passed, hp, hlt]

/-- With the primary elements all secondary ones that have partners are passed. -/
theorem staged_partner (h : Mutual ps) (first : Marks) (hp : partnerAt ps .secondary u = some p)
    (j : Nat) : staged ps first ps.primary.size j .secondary u = final ps .secondary u := by
  have hlt : p.index < ps.primary.size := partnerAt_lt (h.back hp)
  rw [staged, if_pos]
  simp [passed, hp, hlt]

/-- At its turn a secondary element without a partner is as at first. -/
theorem staged_leftover (hp : partnerAt ps .secondary j = none) (first : Marks) (i : Nat) :
    staged ps first i j .secondary j = first .secondary j := by
  rw [staged, if_neg]
  simp [passed, hp]

/-- With a primary element its partner is passed. -/
theorem passed_succ_left (h : Mutual ps) (i j : Nat) (s : Side) (u : Nat) :
    passed ps (i + 1) j s u = true ↔ passed ps i j s u = true ∨ (s = .primary ∧ u = i) ∨
      s = .secondary ∧ (partnerAt ps .primary i).map (·.index) = some u := by
  cases s with
  | primary =>
    simp only [passed, decide_eq_true_eq, true_and, reduceCtorEq, false_and, or_false]
    exact Nat.lt_succ_iff_lt_or_eq
  | secondary =>
    cases hq : partnerAt ps .secondary u with
    | none =>
      have hno : (partnerAt ps .primary i).map (·.index) ≠ some u := by
        intro hsome
        obtain ⟨p, hp, rfl⟩ := Option.map_eq_some_iff.mp hsome
        have hback : partnerAt ps .secondary p.index = some ⟨i, p.kind⟩ := h.back hp
        rw [hq] at hback
        cases hback
      simp [passed, hq, hno]
    | some q =>
      have hiff : (partnerAt ps .primary i).map (·.index) = some u ↔ q.index = i := by
        constructor
        · intro hsome
          obtain ⟨p, hp, rfl⟩ := Option.map_eq_some_iff.mp hsome
          have hback : partnerAt ps .secondary p.index = some ⟨i, p.kind⟩ := h.back hp
          rw [hq] at hback
          exact congrArg Partner.index (Option.some.inj hback)
        · rintro rfl
          have hback : partnerAt ps .primary q.index = some ⟨u, q.kind⟩ := h.back hq
          rw [hback]
          rfl
      simp only [passed, hq, hiff, decide_eq_true_eq, true_and, reduceCtorEq, false_and, false_or]
      exact Nat.lt_succ_iff_lt_or_eq

theorem passed_succ_right (i j : Nat) (s : Side) (u : Nat) :
    passed ps i (j + 1) s u = true ↔ passed ps i j s u = true ∨
      s = .secondary ∧ u = j ∧ partnerAt ps .secondary j = none := by
  cases s with
  | primary => simp [passed]
  | secondary =>
    cases hq : partnerAt ps .secondary u with
    | some q =>
      have hno : ¬ (u = j ∧ partnerAt ps .secondary j = none) := by
        rintro ⟨rfl, hnone⟩
        simp [hq] at hnone
      simp [passed, hq, hno]
    | none =>
      have hiff : (u = j ∧ partnerAt ps .secondary j = none) ↔ u = j := by
        refine and_iff_left_of_imp ?_
        rintro rfl
        exact hq
      simp only [passed, hq, hiff, decide_eq_true_eq, true_and]
      exact Nat.lt_succ_iff_lt_or_eq

/-- An element that is passed besides is written at. -/
private theorem write_of_passed {i' j' : Nat} {t : Side} {v : Nat}
    (h : ∀ s u, passed ps i' j' s u = true ↔ passed ps i j s u = true ∨ s = t ∧ u = v) :
    staged ps first i' j' = (staged ps first i j).write t v (final ps t v) := by
  funext s u
  simp only [staged, write, h]
  by_cases hat : s = t ∧ u = v
  · obtain ⟨rfl, rfl⟩ := hat
    simp
  · simp [hat]

theorem staged_succ_left_none (h : Mutual ps) (hp : partnerAt ps .primary i = none) (j : Nat) :
    staged ps first (i + 1) j =
      (staged ps first i j).write .primary i (final ps .primary i) := by
  apply write_of_passed
  intro s u
  rw [passed_succ_left h, hp]
  simp

theorem staged_succ_left_some (h : Mutual ps) (hp : partnerAt ps .primary i = some p) (j : Nat) :
    staged ps first (i + 1) j =
      ((staged ps first i j).write .primary i (final ps .primary i)).write .secondary p.index
        (final ps .secondary p.index) := by
  funext s u
  simp only [staged, write, passed_succ_left h, hp, Option.map_some, Option.some.injEq]
  cases s with
  | primary => by_cases hu : u = i <;> simp [hu]
  | secondary => by_cases hu : u = p.index <;> simp [hu, Ne.symm]

theorem staged_succ_right_none (hp : partnerAt ps .secondary j = none) (i : Nat) :
    staged ps first i (j + 1) =
      (staged ps first i j).write .secondary j (final ps .secondary j) := by
  apply write_of_passed
  intro s u
  rw [passed_succ_right, and_iff_left hp]

theorem staged_succ_right_some (hp : partnerAt ps .secondary j = some p) (i : Nat) :
    staged ps first i (j + 1) = staged ps first i j := by
  funext s u
  simp only [staged, passed_succ_right, hp]
  simp

end Marks

end GraphCompare
