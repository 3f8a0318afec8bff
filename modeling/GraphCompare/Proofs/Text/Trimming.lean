import GraphCompare.Text.Blank
import Mathlib.Data.List.TakeWhile

/-! Trimming: a text is what trimming leaves of it, with blanks on both sides, and blanks that are
put around it are lost again. -/
namespace GraphCompare.Text
variable {cs pre post : List Char}

def Blanks (cs : List Char) : Prop := ∀ c ∈ cs, isBlank c = true

theorem exists_padding (cs : List Char) :
    ∃ pre post, Blanks pre ∧ Blanks post ∧ cs = pre ++ trim cs ++ post := by
  refine ⟨cs.takeWhile isBlank, ((cs.dropWhile isBlank).reverse.takeWhile isBlank).reverse,
    ?_, ?_, ?_⟩
  · exact fun c hc => List.mem_takeWhile_imp hc
  · exact fun c hc => List.mem_takeWhile_imp (List.mem_reverse.mp hc)
  · rw [trim, List.append_assoc, ← List.reverse_append, List.takeWhile_append_dropWhile,
      List.reverse_reverse, List.takeWhile_append_dropWhile]

theorem trim_append (hpre : Blanks pre) (hpost : Blanks post) :
    trim (pre ++ cs ++ post) = trim cs := by
  rw [trim, List.append_assoc, List.dropWhile_append_of_pos hpre, List.dropWhile_append]
  split
  · rename_i hempty
    rw [List.isEmpty_iff] at hempty
    rw [trim, hempty, List.dropWhile_eq_nil_iff.mpr hpost]
  · rw [List.reverse_append,
      List.dropWhile_append_of_pos fun c hc => hpost c (List.mem_reverse.mp hc), trim]

theorem trim_of_no_blank (h : ∀ c ∈ cs, isBlank c = false) : trim cs = cs := by
  have hdrop : ∀ l : List Char, (∀ c ∈ l, isBlank c = false) → l.dropWhile isBlank = l := by
    intro l hl
    rw [List.dropWhile_eq_self_iff]
    intro hlt
    simp [hl _ (List.getElem_mem hlt)]
  rw [trim, hdrop cs h, hdrop _ fun c hc => h c (List.mem_reverse.mp hc), List.reverse_reverse]

end GraphCompare.Text
