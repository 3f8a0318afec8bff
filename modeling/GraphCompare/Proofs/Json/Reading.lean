import GraphCompare.Json.Parser
import GraphCompare.Proofs.Json.Scanning

/-! Reading back what has been printed: a value whose numbers are legible is read as its
document. -/
namespace GraphCompare
variable {j : Json}

namespace Json.Parser

/-- No value starts with a bracket that closes, so the first item of an array is read as any. -/
theorem foldlM_firstItem (j : Json) (stack : List Frame) :
    j.tokens.foldlM step (.working stack .firstItem) =
      j.tokens.foldlM step (.working stack .value) := by
  cases j with
  | null | bool | number | string => rfl
  | array items => cases items <;> rfl
  | object members => cases members <;> rfl

/-- The name of a member and the colon after it make the parser wait for the value. -/
theorem foldlM_name {turn : Turn} (hturn : turn = .firstName ∨ turn = .name) (k : String)
    (ts : List Token) (ds : List (Option String × Doc)) (stack : List Frame) :
    (.string (some k) :: .colon :: ts).foldlM step (.working (.object ds :: stack) turn) =
      ts.foldlM step (.working (.member ds (some k) :: stack) .value) := by
  rcases hturn with rfl | rfl
  · exact (foldlM_cons_of_eq_some rfl).trans (foldlM_cons_of_eq_some rfl)
  · exact (foldlM_cons_of_eq_some rfl).trans (foldlM_cons_of_eq_some rfl)

mutual

theorem read_tokens : (j : Json) → ∀ stack,
    j.tokens.foldlM step (.working stack .value) = supply j.toDoc stack
  | .null, stack => foldlM_singleton step _ _
  | .bool _, stack => foldlM_singleton step _ _
  | .number _, stack => foldlM_singleton step _ _
  | .string _, stack => foldlM_singleton step _ _
  | .array [], stack => by
    have hopen : step (.working stack .value) .openArray =
        some (.working (.array [] :: stack) .firstItem) := rfl
    rw [tokens, foldlM_cons_of_eq_some hopen]
    exact foldlM_singleton step _ _
  | .array (j :: rest), stack => by
    have hopen : step (.working stack .value) .openArray =
        some (.working (.array [] :: stack) .firstItem) := rfl
    have hfirst := (foldlM_firstItem j (.array [] :: stack)).trans (read_tokens j _)
    rw [tokens, List.cons_append, foldlM_cons_of_eq_some hopen, foldlM_append_of_eq_some hfirst,
      read_itemsTokens rest]
    rfl
  | .object [], stack => by
    have hopen : step (.working stack .value) .openObject =
        some (.working (.object [] :: stack) .firstName) := rfl
    rw [tokens, foldlM_cons_of_eq_some hopen]
    exact foldlM_singleton step _ _
  | .object ((k, j) :: rest), stack => by
    have hopen : step (.working stack .value) .openObject =
        some (.working (.object [] :: stack) .firstName) := rfl
    have hfirst := read_tokens j (.member [] (some k) :: stack)
    rw [tokens, List.cons_append, List.cons_append, List.cons_append, foldlM_cons_of_eq_some hopen,
      foldlM_name (.inl rfl), foldlM_append_of_eq_some hfirst, read_membersTokens rest]
    rfl

/-- The items that have been read are in reverse. -/
theorem read_itemsTokens : (items : List Json) → ∀ ds stack,
    (itemsTokens items).foldlM step (.working (.array ds :: stack) .separator) =
      supply (.array (ds.reverse ++ itemsToDoc items)) stack
  | [], ds, stack => by
    rw [itemsToDoc, List.append_nil]
    exact foldlM_singleton step _ _
  | j :: rest, ds, stack => by
    have hcomma : step (.working (.array ds :: stack) .separator) .comma =
        some (.working (.array ds :: stack) .value) := rfl
    have hitem := read_tokens j (.array ds :: stack)
    rw [itemsTokens, List.cons_append, foldlM_cons_of_eq_some hcomma,
      foldlM_append_of_eq_some hitem, read_itemsTokens rest]
    simp [itemsToDoc]

theorem read_membersTokens : (members : List (String × Json)) → ∀ ds stack,
    (membersTokens members).foldlM step (.working (.object ds :: stack) .separator) =
      supply (.object (ds.reverse ++ membersToDoc members)) stack
  | [], ds, stack => by
    rw [membersToDoc, List.append_nil]
    exact foldlM_singleton step _ _
  | (k, j) :: rest, ds, stack => by
    have hcomma : step (.working (.object ds :: stack) .separator) .comma =
        some (.working (.object ds :: stack) .name) := rfl
    have hmember := read_tokens j (.member ds (some k) :: stack)
    rw [membersTokens, List.cons_append, List.cons_append, List.cons_append,
      foldlM_cons_of_eq_some hcomma, foldlM_name (.inr rfl), foldlM_append_of_eq_some hmember,
      read_membersTokens rest]
    simp [membersToDoc]

end

theorem ofTokens?_tokens (j : Json) : ofTokens? j.tokens = some j.toDoc := by
  rw [ofTokens?, read_tokens]
  rfl

end Json.Parser

/-- A printed value is read as its own document. -/
theorem Doc.ofText?_render (h : j.Legible) : ofText? j.render = some j.toDoc := by
  rw [ofText?, Json.render, String.toList_ofList, Json.Token.scan?_text h, Option.bind_eq_bind,
    Option.bind_some, Json.Parser.ofTokens?_tokens]

end GraphCompare
