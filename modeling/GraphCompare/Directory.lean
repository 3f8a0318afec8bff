/-! Numbers found by key: what a hash map answers after its insertions. -/
namespace GraphCompare

/-- The numbers given to keys, the latest first. A key has the number it was given last. -/
structure Directory (κ : Type) where
  entries : List (κ × Nat)
deriving DecidableEq, Repr

namespace Directory
variable {κ : Type} [DecidableEq κ]

def empty : Directory κ := ⟨[]⟩

def get? (d : Directory κ) (k : κ) : Option Nat := (d.entries.find? (·.1 = k)).map (·.2)

def insert (d : Directory κ) (k : κ) (i : Nat) : Directory κ := ⟨(k, i) :: d.entries⟩

@[simp] theorem get?_empty (k : κ) : (empty : Directory κ).get? k = none := rfl

theorem get?_insert (d : Directory κ) (k l : κ) (i : Nat) :
    (d.insert k i).get? l = if l = k then some i else d.get? l := by
  by_cases h : l = k
  · simp [get?, insert, h]
  · simp [get?, insert, h, Ne.symm h]

end Directory

end GraphCompare
