import GraphCompare.Overlay.Build
import Mathlib.Data.List.Nodup
import Mathlib.Data.List.Perm.Subperm

/-! Identities from partners. Where the partners of two sides name each other, the merged list and
the identity tables are inverse to each other, for nodes and for edges alike. -/
namespace GraphCompare
variable {ps : PerSide (Array (Option Partner))} {s : Side} {i j n : Nat} {p : Partner} {m : Merged}

/-- The partner of an element, if the table of its side gives it one. -/
def partnerAt (ps : PerSide (Array (Option Partner))) (s : Side) (i : Nat) : Option Partner :=
  ((ps.get s)[i]?).join

/-- Partners name each other and agree on how they differ, and a pair is never unmatched. -/
structure Mutual (ps : PerSide (Array (Option Partner))) : Prop where
  back : ∀ {s i p}, partnerAt ps s i = some p → partnerAt ps s.other p.index = some ⟨i, p.kind⟩
  kind_ne : ∀ {s i p}, partnerAt ps s i = some p → p.kind ≠ .unmatched

theorem partnerAt_lt (h : partnerAt ps s i = some p) : i < (ps.get s).size := by
  by_contra hn
  simp [partnerAt, Array.getElem?_eq_none (Nat.le_of_not_lt hn)] at h

theorem getElem?_eq_partnerAt (h : i < (ps.get s).size) :
    (ps.get s)[i]? = some (partnerAt ps s i) := by
  simp [partnerAt, Array.getElem?_eq_getElem h]

/-- Two elements without partners may become partners of each other. -/
theorem Mutual.insert {ps' : PerSide (Array (Option Partner))} {k : MatchKind} (h : Mutual ps)
    (hi : partnerAt ps .primary i = none) (hj : partnerAt ps .secondary j = none)
    (hk : k ≠ .unmatched)
    (hat : ∀ s u, partnerAt ps' s u =
      match s with
      | .primary => if u = i then some ⟨j, k⟩ else partnerAt ps .primary u
      | .secondary => if u = j then some ⟨i, k⟩ else partnerAt ps .secondary u) : Mutual ps' where
  back := by
    intro s u p hu
    rw [hat] at hu ⊢
    cases s with
    | primary =>
      dsimp only [Side.other] at hu ⊢
      split at hu
      · rename_i hui
        cases hu
        rw [if_pos rfl, hui]
      · have hback : partnerAt ps .secondary p.index = some ⟨u, p.kind⟩ := h.back hu
        rw [if_neg, hback]
        intro he
        simp [he, hj] at hback
    | secondary =>
      dsimp only [Side.other] at hu ⊢
      split at hu
      · rename_i huj
        cases hu
        rw [if_pos rfl, huj]
      · have hback : partnerAt ps .primary p.index = some ⟨u, p.kind⟩ := h.back hu
        rw [if_neg, hback]
        intro he
        simp [he, hi] at hback
  kind_ne := by
    intro s u p hu
    rw [hat] at hu
    cases s <;> dsimp only at hu <;> split at hu
    · cases hu
      exact hk
    · exact h.kind_ne hu
    · cases hu
      exact hk
    · exact h.kind_ne hu

theorem toList_eq_map_partnerAt (ps : PerSide (Array (Option Partner))) (s : Side) :
    (ps.get s).toList = (List.range (ps.get s).size).map (partnerAt ps s) := by
  apply List.ext_getElem?
  intro i
  rw [List.getElem?_map, Array.getElem?_toList]
  by_cases hi : i < (ps.get s).size
  · rw [getElem?_eq_partnerAt hi, List.getElem?_range hi]
    rfl
  · simp [Nat.le_of_not_lt hi]

/-- The elements of a side that have a partner. -/
private def matchedIds (ps : PerSide (Array (Option Partner))) (s : Side) : List Nat :=
  (List.range (ps.get s).size).filter fun i => (partnerAt ps s i).isSome

private def partnerIndex (ps : PerSide (Array (Option Partner))) (s : Side) (i : Nat) : Nat :=
  ((partnerAt ps s i).map (·.index)).getD 0

private theorem countP_eq_length_matchedIds (ps : PerSide (Array (Option Partner))) (s : Side) :
    (ps.get s).countP (·.isSome) = (matchedIds ps s).length := by
  rw [← Array.countP_toList, toList_eq_map_partnerAt, List.countP_map, List.countP_eq_length_filter]
  rfl

/-- A side has at most as many partners as the other: each leads to another element there. -/
private theorem countP_partners_le (h : Mutual ps) (s : Side) :
    (ps.get s).countP (·.isSome) ≤ (ps.get s.other).countP (·.isSome) := by
  rw [countP_eq_length_matchedIds, countP_eq_length_matchedIds]
  have hpartner : ∀ i ∈ matchedIds ps s, ∃ p, partnerAt ps s i = some p := by
    intro i hi
    exact Option.isSome_iff_exists.mp (List.mem_filter.mp hi).2
  have hinj : ((matchedIds ps s).map (partnerIndex ps s)).Nodup := by
    apply List.Nodup.map_on
    · intro i hi j hj hij
      obtain ⟨p, hp⟩ := hpartner i hi
      obtain ⟨q, hq⟩ := hpartner j hj
      have hpq : p.index = q.index := by simpa [partnerIndex, hp, hq] using hij
      have hback := (h.back hp).symm.trans (hpq ▸ h.back hq)
      exact congrArg Partner.index (Option.some.inj hback)
    · exact List.nodup_range.filter _
  have hsub : (matchedIds ps s).map (partnerIndex ps s) ⊆ matchedIds ps s.other := by
    intro j hj
    obtain ⟨i, hi, rfl⟩ := List.mem_map.mp hj
    obtain ⟨p, hp⟩ := hpartner i hi
    have hback := h.back hp
    simp only [partnerIndex, hp, Option.map_some, Option.getD_some]
    exact List.mem_filter.mpr ⟨List.mem_range.mpr (partnerAt_lt hback), by rw [hback]; rfl⟩
  simpa using (hinj.subperm hsub).length_le

theorem countP_partners (h : Mutual ps) (s : Side) :
    (ps.get s).countP (·.isSome) = ps.secondary.countP (·.isSome) := by
  cases s with
  | secondary => rfl
  | primary =>
    exact Nat.le_antisymm (countP_partners_le h .primary) (countP_partners_le h .secondary)

namespace Overlay

/-- The elements of a list that have no partner, numbered from an index on. -/
private def leftovers (start : Nat) (l : List (Option Partner)) : List Merged :=
  (l.mapIdx fun i p => ofSecondary? (start + i) p).filterMap id

private theorem leftovers_cons (start : Nat) (p : Option Partner) (l : List (Option Partner)) :
    leftovers start (p :: l) = (ofSecondary? start p).toList ++ leftovers (start + 1) l := by
  simp only [leftovers, List.mapIdx_cons, List.filterMap_cons, Nat.add_zero, id]
  have : (fun i => ofSecondary? (start + (i + 1))) = fun i => ofSecondary? (start + 1 + i) := by
    funext i
    rw [Nat.add_assoc, Nat.add_comm 1]
  cases ofSecondary? start p <;> simp [this]

theorem length_numbering (next : Nat) (l : List (Option Partner)) :
    (numbering next l).length = l.length := by
  induction l generalizing next with
  | nil => rfl
  | cons p l ih => cases p <;> simp [numbering, ih]

theorem numbering_matched (next : Nat) {l : List (Option Partner)} (h : l[j]? = some (some p)) :
    (numbering next l)[j]? = some p.index := by
  induction l generalizing next j with
  | nil => simp at h
  | cons q l ih =>
    cases j with
    | zero =>
      cases Option.some.inj h
      rfl
    | succ j => cases q <;> simpa [numbering] using ih _ (by simpa using h)

/-- An element without a partner gets the number at which the merged list holds it. -/
private theorem numbering_unmatched (start next : Nat) {l : List (Option Partner)}
    (h : l[j]? = some none) :
    ∃ n, (numbering next l)[j]? = some (next + n) ∧
      (leftovers start l)[n]? = some ⟨⟨none, some (start + j)⟩, .unmatched⟩ := by
  induction l generalizing start next j with
  | nil => simp at h
  | cons q l ih =>
    rw [leftovers_cons]
    cases j with
    | zero =>
      cases Option.some.inj h
      exact ⟨0, rfl, rfl⟩
    | succ j =>
      have hl : l[j]? = some none := by simpa using h
      cases q with
      | some q =>
        obtain ⟨n, hn, hm⟩ := ih (start + 1) next hl
        refine ⟨n, hn, ?_⟩
        simpa [ofSecondary?, Nat.add_assoc, Nat.add_comm 1] using hm
      | none =>
        obtain ⟨n, hn, hm⟩ := ih (start + 1) (next + 1) hl
        refine ⟨n + 1, ?_, ?_⟩
        · simpa [numbering, Nat.add_assoc, Nat.add_comm 1] using hn
        · simpa [ofSecondary?, Nat.add_assoc, Nat.add_comm 1] using hm

private theorem leftovers_unmatched {start : Nat} (next : Nat) {l : List (Option Partner)}
    (h : (leftovers start l)[n]? = some m) :
    ∃ j, l[j]? = some none ∧ m = ⟨⟨none, some (start + j)⟩, .unmatched⟩ ∧
      (numbering next l)[j]? = some (next + n) := by
  induction l generalizing start next n with
  | nil => simp [leftovers] at h
  | cons q l ih =>
    rw [leftovers_cons] at h
    cases q with
    | some q =>
      obtain ⟨j, hj, hm, hn⟩ := ih next (by simpa [ofSecondary?] using h)
      refine ⟨j + 1, by simpa using hj, ?_, hn⟩
      rw [hm, Nat.add_assoc, Nat.add_comm 1]
    | none =>
      cases n with
      | zero =>
        refine ⟨0, rfl, ?_, rfl⟩
        simpa [ofSecondary?] using h.symm
      | succ n =>
        obtain ⟨j, hj, hm, hn⟩ := ih (next + 1) (by simpa [ofSecondary?] using h)
        refine ⟨j + 1, by simpa using hj, ?_, ?_⟩
        · rw [hm, Nat.add_assoc, Nat.add_comm 1]
        · simpa [numbering, Nat.add_assoc, Nat.add_comm 1] using hn

private theorem mergedNodes_eq (ps : PerSide (Array (Option Partner))) :
    mergedNodes ps = ps.primary.toList.mapIdx ofPrimary ++ leftovers 0 ps.secondary.toList := by
  simp only [mergedNodes, leftovers, Nat.zero_add]

theorem size_identityTable (ps : PerSide (Array (Option Partner))) (s : Side) :
    ((identityTable ps).get s).size = (ps.get s).size := by
  cases s <;> simp [identityTable, PerSide.get, length_numbering]

theorem identity_primary (h : i < ps.primary.size) :
    ((identityTable ps).get .primary)[i]? = some i := by
  simp [identityTable, PerSide.get, h]

theorem merged_primary (h : i < ps.primary.size) :
    (mergedNodes ps)[i]? = some (ofPrimary i (partnerAt ps .primary i)) := by
  have hi : i < (ps.primary.toList.mapIdx ofPrimary).length := by simpa using h
  rw [mergedNodes_eq, List.getElem?_append_left hi, List.getElem?_mapIdx]
  simp [partnerAt, PerSide.get, h]

theorem identity_matched (h : partnerAt ps .secondary j = some p) :
    ((identityTable ps).get .secondary)[j]? = some p.index := by
  have hj := getElem?_eq_partnerAt (partnerAt_lt h)
  have := numbering_matched ps.primary.size (l := ps.secondary.toList) (j := j) (p := p)
    (by simpa [h, PerSide.get] using hj)
  simpa [identityTable, PerSide.get] using this

/-- Partners have one identity. -/
theorem identity_partner (hm : Mutual ps) (hp : partnerAt ps s i = some p) :
    ((identityTable ps).get s)[i]? = ((identityTable ps).get s.other)[p.index]? := by
  have hback := hm.back hp
  cases s with
  | primary => exact (identity_primary (partnerAt_lt hp)).trans (identity_matched hback).symm
  | secondary => exact (identity_matched hp).trans (identity_primary (partnerAt_lt hback)).symm

private theorem mergedNodes_leftover (ps : PerSide (Array (Option Partner))) (n : Nat) :
    (mergedNodes ps)[ps.primary.size + n]? = (leftovers 0 ps.secondary.toList)[n]? := by
  rw [mergedNodes_eq, List.getElem?_append_right (by simp)]
  simp

theorem identity_unmatched (hj : j < ps.secondary.size) (h : partnerAt ps .secondary j = none) :
    ∃ n, ((identityTable ps).get .secondary)[j]? = some (ps.primary.size + n) ∧
      (mergedNodes ps)[ps.primary.size + n]? = some ⟨⟨none, some j⟩, .unmatched⟩ := by
  have hget := getElem?_eq_partnerAt (s := .secondary) hj
  obtain ⟨n, hn, hl⟩ := numbering_unmatched 0 ps.primary.size
    (l := ps.secondary.toList) (j := j) (by simpa [h, PerSide.get] using hget)
  refine ⟨n, by simpa [identityTable, PerSide.get] using hn, ?_⟩
  rw [mergedNodes_leftover, hl, Nat.zero_add]

theorem merged_leftover (h : (mergedNodes ps)[ps.primary.size + n]? = some m) :
    ∃ j, partnerAt ps .secondary j = none ∧ m = ⟨⟨none, some j⟩, .unmatched⟩ ∧
      ((identityTable ps).get .secondary)[j]? = some (ps.primary.size + n) := by
  rw [mergedNodes_leftover] at h
  obtain ⟨j, hj, hm, hn⟩ := leftovers_unmatched ps.primary.size h
  refine ⟨j, ?_, by rw [hm, Nat.zero_add], by simpa [identityTable, PerSide.get] using hn⟩
  have : ps.secondary[j]? = some none := by simpa using hj
  simp [partnerAt, PerSide.get, this]

/-- The merged element that a table gives an element holds it. -/
theorem merged_identity (hm : Mutual ps) (hi : i < (ps.get s).size) :
    ∃ n m, ((identityTable ps).get s)[i]? = some n ∧ (mergedNodes ps)[n]? = some m ∧
      m.holders.get s = some i := by
  cases s with
  | primary => exact ⟨i, _, identity_primary hi, merged_primary hi, rfl⟩
  | secondary =>
    cases hp : partnerAt ps .secondary i with
    | some p =>
      have hback : partnerAt ps .primary p.index = some ⟨i, p.kind⟩ := hm.back hp
      refine ⟨p.index, _, identity_matched hp, merged_primary (partnerAt_lt hback), ?_⟩
      simp [ofPrimary, PerSide.get, hback]
    | none =>
      obtain ⟨n, hn, hl⟩ := identity_unmatched hi hp
      exact ⟨_, _, hn, hl, rfl⟩

/-- A merged element is the identity of what it holds, and holds its partner besides, with the kind
of the pair. -/
theorem identity_merged (hm : Mutual ps) (hn : (mergedNodes ps)[n]? = some m)
    (hi : m.holders.get s = some i) :
    ((identityTable ps).get s)[i]? = some n ∧
      m.holders.get s.other = (partnerAt ps s i).map (·.index) ∧
      m.kind = ((partnerAt ps s i).map (·.kind)).getD .unmatched := by
  by_cases hlt : n < ps.primary.size
  · rw [merged_primary hlt] at hn
    cases Option.some.inj hn
    cases s with
    | primary =>
      cases Option.some.inj hi
      exact ⟨identity_primary hlt, rfl, rfl⟩
    | secondary =>
      obtain ⟨p, hp, hpi⟩ := Option.map_eq_some_iff.mp hi
      have hback : partnerAt ps .secondary i = some ⟨n, p.kind⟩ := hpi ▸ hm.back hp
      refine ⟨identity_matched hback, ?_, ?_⟩
      · simp [ofPrimary, PerSide.get, Side.other, hback]
      · simp [ofPrimary, hp, hback]
  · obtain ⟨k, rfl⟩ := Nat.exists_eq_add_of_le (Nat.le_of_not_lt hlt)
    obtain ⟨j, hj, rfl, hid⟩ := merged_leftover hn
    cases s with
    | primary => cases hi
    | secondary =>
      cases Option.some.inj hi
      exact ⟨hid, by simp [hj, PerSide.get, Side.other], by simp [hj]⟩

theorem exists_holder (hn : (mergedNodes ps)[n]? = some m) : ∃ s i, m.holders.get s = some i := by
  by_cases hlt : n < ps.primary.size
  · rw [merged_primary hlt] at hn
    cases Option.some.inj hn
    exact ⟨.primary, n, rfl⟩
  · obtain ⟨k, rfl⟩ := Nat.exists_eq_add_of_le (Nat.le_of_not_lt hlt)
    obtain ⟨j, _, rfl, _⟩ := merged_leftover hn
    exact ⟨.secondary, j, rfl⟩

/-- Two elements of one side never share an identity. -/
theorem identity_injective (hm : Mutual ps) (hi : ((identityTable ps).get s)[i]? = some n)
    (hj : ((identityTable ps).get s)[j]? = some n) : i = j := by
  have lt : ∀ {k}, ((identityTable ps).get s)[k]? = some n → k < (ps.get s).size := by
    intro k hk
    rw [← size_identityTable]
    exact (Array.getElem?_eq_some_iff.mp hk).1
  obtain ⟨n₁, m₁, h₁, hm₁, hh₁⟩ := merged_identity hm (lt hi)
  obtain ⟨n₂, m₂, h₂, hm₂, hh₂⟩ := merged_identity hm (lt hj)
  cases Option.some.inj (h₁.symm.trans hi)
  cases Option.some.inj (h₂.symm.trans hj)
  cases Option.some.inj (hm₁.symm.trans hm₂)
  exact Option.some.inj (hh₁.symm.trans hh₂)

/-- Elements of the two sides share an identity just when they are partners. -/
theorem identity_shared (hm : Mutual ps) (hi : ((identityTable ps).get .primary)[i]? = some n)
    (hj : ((identityTable ps).get .secondary)[j]? = some n) :
    ∃ k, partnerAt ps .primary i = some ⟨j, k⟩ ∧ partnerAt ps .secondary j = some ⟨i, k⟩ := by
  have hi' : i < (ps.get .primary).size := by
    rw [← size_identityTable]
    exact (Array.getElem?_eq_some_iff.mp hi).1
  have hj' : j < (ps.get .secondary).size := by
    rw [← size_identityTable]
    exact (Array.getElem?_eq_some_iff.mp hj).1
  obtain ⟨n₁, m₁, h₁, hm₁, hh₁⟩ := merged_identity hm hi'
  obtain ⟨n₂, m₂, h₂, hm₂, hh₂⟩ := merged_identity hm hj'
  cases Option.some.inj (h₁.symm.trans hi)
  cases Option.some.inj (h₂.symm.trans hj)
  cases Option.some.inj (hm₁.symm.trans hm₂)
  have hother : m₁.holders.get .secondary = (partnerAt ps .primary i).map (·.index) :=
    (identity_merged hm hm₁ hh₁).2.1
  rw [hh₂] at hother
  obtain ⟨p, hp, hpj⟩ := Option.map_eq_some_iff.mp hother.symm
  refine ⟨p.kind, ?_, hpj ▸ hm.back hp⟩
  rw [hp, ← hpj]

/-- The merged list is shorter than both sides together by the number of pairs. -/
theorem length_mergedNodes (ps : PerSide (Array (Option Partner))) :
    (mergedNodes ps).length + ps.secondary.countP (·.isSome) =
      ps.primary.size + ps.secondary.size := by
  have hleft : ∀ (start : Nat) (l : List (Option Partner)),
      (leftovers start l).length + l.countP (·.isSome) = l.length := by
    intro start l
    induction l generalizing start with
    | nil => rfl
    | cons q l ih =>
      have := ih (start + 1)
      rw [leftovers_cons]
      cases q <;> simp [ofSecondary?] <;> omega
  have := hleft 0 ps.secondary.toList
  rw [mergedNodes_eq, List.length_append, List.length_mapIdx, ← Array.countP_toList]
  simp only [Array.length_toList] at this ⊢
  omega

theorem countP_isNone_add (l : List (Option Partner)) :
    l.countP (·.isNone) + l.countP (·.isSome) = l.length := by
  induction l with
  | nil => rfl
  | cons q l ih => cases q <;> simp <;> omega

/-- Identities of the elements left over follow those of the primary ones, in order. -/
theorem numbering_leftovers (next : Nat) (l : List (Option Partner)) :
    (((l.zip (numbering next l)).filter (·.1.isNone)).map (·.2)) =
      List.range' next (l.countP (·.isNone)) := by
  induction l generalizing next with
  | nil => rfl
  | cons q l ih =>
    cases q with
    | some q => simpa [numbering] using ih next
    | none => simp [numbering, ih (next + 1), List.range'_succ]

end Overlay

end GraphCompare
