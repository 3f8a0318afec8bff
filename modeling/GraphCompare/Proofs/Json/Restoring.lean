import GraphCompare.Json.Decode
import GraphCompare.Proofs.Json.Reading

/-! Values that are restored by reading what has been written of them: strings, and lists and
optional values of what is restored. -/
namespace GraphCompare
variable {α : Type} {write : α → Json} {read : Doc → Option α} {a : α} {as : List α}

namespace Json

/-- No name occurs twice. -/
def Distinct (members : List (String × Json)) : Prop := (members.map (·.1)).Nodup

theorem itemsToDoc_eq_map (items : List Json) : itemsToDoc items = items.map toDoc := by
  induction items with
  | nil => rfl
  | cons j rest ih => rw [itemsToDoc, ih, List.map_cons]

theorem membersToDoc_eq_map (members : List (String × Json)) :
    membersToDoc members = members.map fun m => (some m.1, m.2.toDoc) := by
  induction members with
  | nil => rfl
  | cons m rest ih => rw [membersToDoc, ih, List.map_cons]

theorem itemsLegible_iff {items : List Json} : ItemsLegible items ↔ ∀ j ∈ items, j.Legible := by
  induction items with
  | nil => simp [ItemsLegible]
  | cons j rest ih => simp [ItemsLegible, ih]

end Json

namespace Doc

/-- Those members of an object that are among the names, as documents. -/
def known (names : List String) (members : List (String × Json)) : List (String × Doc) :=
  (members.map fun m => (m.1, m.2.toDoc)).filter fun m => names.contains m.1

/-- No name occurs twice, so an object has each field at most once. -/
theorem fields?_object {members : List (String × Json)} (h : Json.Distinct members)
    (names : List String) :
    (Json.object members).toDoc.fields? names = some (known names members) := by
  have hread : (members.map fun m => (some m.1, m.2.toDoc)).mapM
      (fun m : Option String × Doc => m.1.map fun k => (k, m.2)) =
      some (members.map fun m => (m.1, m.2.toDoc)) := by
    rw [List.mapM_map]
    exact List.mapM_pure
  have hknown : ((known names members).map (·.1)).Nodup := by
    refine (List.filter_sublist.map _).nodup ?_
    rw [List.map_map]
    exact h
  rw [Json.toDoc, Json.membersToDoc_eq_map, fields?, hread, Option.bind_eq_bind, Option.bind_some]
  exact if_pos hknown

/-- An object that has exactly the fields, in their order, has its members for fields. -/
theorem fields?_toDoc {names : List String} {members : List (String × Json)}
    (hnames : members.map (·.1) = names) (hnodup : names.Nodup) :
    (Json.object members).toDoc.fields? names = some (members.map fun m => (m.1, m.2.toDoc)) := by
  subst hnames
  rw [fields?_object hnodup, known, List.filter_eq_self.mpr]
  intro m hm
  obtain ⟨m, hmem, rfl⟩ := List.mem_map.mp hm
  rw [List.contains_iff_mem]
  exact List.mem_map_of_mem hmem

/-- What is written of a value is legible, and gives the value when it is read. -/
structure Restores (write : α → Json) (read : Doc → Option α) (a : α) : Prop where
  legible : (write a).Legible
  read_toDoc : read (write a).toDoc = some a

theorem Restores.read_render (h : Restores write read a) :
    (ofText? (write a).render).bind read = some a := by
  rw [ofText?_render h.legible, Option.bind_some, h.read_toDoc]

theorem restores_string (s : String) : Restores Json.string string? s := ⟨trivial, rfl⟩

theorem restores_list (h : ∀ a, Restores write read a) (as : List α) :
    Restores (fun as => .array (as.map write)) (list? read) as where
  legible := by
    refine Json.itemsLegible_iff.mpr fun j hj => ?_
    obtain ⟨a, _, rfl⟩ := List.mem_map.mp hj
    exact (h a).legible
  read_toDoc := by
    have hread : read ∘ Json.toDoc ∘ write = some := funext fun a => (h a).read_toDoc
    change (Json.itemsToDoc (as.map write)).mapM read = some as
    rw [Json.itemsToDoc_eq_map, List.map_map, List.mapM_map, hread]
    exact List.mapM_pure.trans (congrArg some (List.map_id as))

/-- An absent value is written as null, which must not be read as one that is there. -/
theorem restores_option (h : ∀ a, Restores write read a) (hnull : read .null = none)
    (x : Option α) : Restores (Json.ofOption write) (option? read) x := by
  cases x with
  | none => exact ⟨trivial, rfl⟩
  | some a =>
    refine ⟨(h a).legible, ?_⟩
    have hread := (h a).read_toDoc
    change option? read (write a).toDoc = some (some a)
    unfold option?
    split
    · rename_i heq
      rw [heq, hnull] at hread
      cases hread
    · rw [hread]
      rfl

end Doc

end GraphCompare
