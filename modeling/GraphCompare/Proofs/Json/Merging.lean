import GraphCompare.Proofs.Json.Restoring

/-! Merging objects. A member that the incoming object does not name stays as it is, one that it
names is merged with what is there, and no name comes to occur twice. -/
namespace GraphCompare
variable {members base incoming : List (String × Json)} {name k : String} {old v : Json}

namespace Json

theorem mem_names_put (name : String) (v : Json) (members : List (String × Json)) :
    k ∈ (put name v members).map (·.1) ↔ k = name ∨ k ∈ members.map (·.1) := by
  induction members with
  | nil => simp [put]
  | cons m rest ih =>
    rw [put]
    split
    · rename_i heq
      simp [← heq]
    · rw [List.map_cons, List.mem_cons, ih, List.map_cons, List.mem_cons]
      exact or_left_comm

theorem distinct_put (h : Distinct members) (name : String) (v : Json) :
    Distinct (put name v members) := by
  induction members with
  | nil => simp [Distinct, put]
  | cons m rest ih =>
    obtain ⟨hm, hrest⟩ := List.nodup_cons.mp h
    rw [put]
    split
    · exact h
    · rename_i hne
      refine List.nodup_cons.mpr ⟨?_, ih hrest⟩
      rw [mem_names_put]
      rintro (heq | hmem)
      · exact hne heq
      · exact hm hmem

theorem null_merge (v : Json) : merge .null v = v := by
  cases v <;> rfl

/-- Anything but an object is replaced. -/
theorem merge_of_not_object (h : ∀ members, old ≠ .object members) (v : Json) :
    merge old v = v := by
  cases old with
  | object members => exact absurd rfl (h members)
  | _ => cases v <;> rfl

/-- A member of the incoming object is merged with what has its name, if there is anything. -/
theorem mergeMembers_cons (base : List (String × Json)) (name : String) (v : Json)
    (rest : List (String × Json)) : mergeMembers base ((name, v) :: rest) =
      mergeMembers (put name (merge ((lookup name base).getD .null) v) base) rest := by
  rw [mergeMembers]
  cases lookup name base with
  | none => rw [Option.getD_none, null_merge]
  | some old => rfl

theorem distinct_mergeMembers (h : Distinct base) (incoming : List (String × Json)) :
    Distinct (mergeMembers base incoming) := by
  induction incoming generalizing base with
  | nil => exact h
  | cons m rest ih =>
    rw [mergeMembers_cons]
    exact ih (distinct_put h _ _)

theorem lookup_cons (name k : String) (v : Json) (rest : List (String × Json)) :
    lookup name ((k, v) :: rest) = if name = k then some v else lookup name rest := by
  rw [lookup, List.lookup_cons]
  by_cases h : name = k
  · subst h
    simp
  · rw [beq_false_of_ne h, if_neg h]
    rfl

theorem lookup_eq_none (h : name ∉ members.map (·.1)) : lookup name members = none := by
  rw [lookup, List.lookup_eq_none_iff]
  intro m hm
  rw [bne_iff_ne]
  rintro rfl
  exact h (List.mem_map_of_mem hm)

theorem lookup_mergeMembers (h : Distinct incoming) (base : List (String × Json)) (name : String) :
    lookup name (mergeMembers base incoming) =
      match lookup name incoming with
      | none => lookup name base
      | some v => some (merge ((lookup name base).getD .null) v) := by
  induction incoming generalizing base with
  | nil => rfl
  | cons m rest ih =>
    obtain ⟨k, w⟩ := m
    obtain ⟨hk, hrest⟩ := List.nodup_cons.mp h
    rw [mergeMembers_cons, ih hrest, lookup_put, lookup_cons]
    by_cases heq : name = k
    · subst heq
      rw [lookup_eq_none hk]
      simp
    · simp only [if_neg heq]

end Json

namespace Doc

theorem lookup_known {names : List String} (hname : name ∈ names) :
    (known names members).lookup name = (Json.lookup name members).map Json.toDoc := by
  unfold known
  induction members with
  | nil => rfl
  | cons m rest ih =>
    obtain ⟨k, v⟩ := m
    rw [List.map_cons, List.filter_cons, Json.lookup_cons]
    by_cases heq : name = k
    · subst heq
      simp [hname]
    · rw [if_neg heq, ← ih]
      split
      · rw [List.lookup_cons, beq_false_of_ne heq]
      · rfl

/-- A field with a default, in an object: what has its name is read. -/
theorem optional_known {α : Type} {names : List String} (hname : name ∈ names) (default : α)
    (read : Doc → Option α) : optional name default read (known names members) =
      (Json.lookup name members).elim (some default) fun j => read j.toDoc := by
  rw [optional, lookup_known hname]
  cases Json.lookup name members <;> rfl

section reading
variable {depth : Nat} {done : List (String × Json)} {ds : List (Option String × Doc)} {d : Doc}
  {j : Json}

theorem exists_of_membersToJson_cons {m : Option String × Doc}
    (h : membersToJson depth done (m :: ds) = some members) :
    ∃ k v, m.2.toJsonWithin depth = some v ∧
      membersToJson depth (Json.put k v done) ds = some members := by
  obtain ⟨k?, d⟩ := m
  rw [membersToJson] at h
  obtain ⟨k, _, h⟩ := Option.bind_eq_some_iff.mp h
  obtain ⟨v, hv, h⟩ := Option.bind_eq_some_iff.mp h
  exact ⟨k, v, hv, h⟩

theorem distinct_membersToJson (hdone : Json.Distinct done)
    (h : membersToJson depth done ds = some members) : Json.Distinct members := by
  induction ds generalizing done with
  | nil =>
    cases h
    exact hdone
  | cons m ds ih =>
    obtain ⟨k, v, _, hrest⟩ := exists_of_membersToJson_cons h
    exact ih (Json.distinct_put hdone k v) hrest

theorem lookup_membersToJson (h : membersToJson depth done ds = some members)
    (hj : Json.lookup name members = some j) :
    Json.lookup name done = some j ∨ ∃ d : Doc, d.toJsonWithin depth = some j := by
  induction ds generalizing done with
  | nil =>
    cases h
    exact .inl hj
  | cons m ds ih =>
    obtain ⟨k, v, hv, hrest⟩ := exists_of_membersToJson_cons h
    refine (ih hrest).elim (fun hput => ?_) .inr
    rw [Json.lookup_put] at hput
    split at hput
    · exact .inr ⟨m.2, hv.trans hput⟩
    · exact .inl hput

theorem exists_members (h : d.toJsonWithin depth = some (.object members)) :
    ∃ k ds, membersToJson k [] ds = some members := by
  cases d with
  | object ds =>
    cases depth with
    | zero => cases h
    | succ k =>
      rw [toJsonWithin] at h
      obtain ⟨members', hmembers, heq⟩ := Option.map_eq_some_iff.mp h
      cases heq
      exact ⟨k, ds, hmembers⟩
  | array items => cases depth <;> simp [toJsonWithin] at h
  | _ => simp [toJsonWithin] at h

/-- No name occurs twice in an object that has been read. -/
theorem distinct_of_toJsonWithin (h : d.toJsonWithin depth = some (.object members)) :
    Json.Distinct members := by
  obtain ⟨k, ds, hmembers⟩ := exists_members h
  have hnil : Json.Distinct [] := List.nodup_nil
  exact distinct_membersToJson hnil hmembers

/-- What is in an object that has been read has itself been read. -/
theorem exists_toJsonWithin (h : d.toJsonWithin depth = some (.object members))
    (hj : Json.lookup name members = some j) :
    ∃ (k : Nat) (d : Doc), d.toJsonWithin k = some j := by
  obtain ⟨k, ds, hmembers⟩ := exists_members h
  rcases lookup_membersToJson hmembers hj with hnone | hread
  · cases hnone
  · exact ⟨k, hread⟩

end reading

end Doc

end GraphCompare
